import Mathlib.Logic.Function.Basic
import Mathlib.Data.List.Basic

/-!
# The input map of the agent

`InputMap` of the winpty agent maps escape sequences to keys.  Its nodes live in a pool and hold
up to eight children in two small arrays, sorted by the bytes that lead to them, and more than
eight in a table of 256 addresses.
-/

namespace InitialSetups.Winpty

abbrev Bytes := List UInt8

/-- The bytes of an ASCII text. -/
def bytes (text : String) : Bytes := text.toList.map Char.toUInt8

structure Key where
  virtualKey : ℕ
  unicodeChar : ℕ
  keyState : ℕ
deriving DecidableEq, Repr

def kKeyZero : Key := ⟨0, 0, 0⟩

/-- A key that is not the zero key, which stands for no key. -/
def Key.isSet (key : Key) : Bool := key.virtualKey ≠ 0 || key.unicodeChar ≠ 0

/-- Addresses in the pool of nodes; the root is at `0`. -/
abbrev Addr := ℕ

def kTinyCount : ℕ := 8

/-- A node.  The first `childCount` entries of `tiny` count up to `kTinyCount` children, the
branch counts from then on. -/
structure Node where
  key : Key := kKeyZero
  childCount : ℕ := 0
  tiny : List (UInt8 × Addr) := []
  branch : UInt8 → Option Addr := fun _ => none

def Node.hasKey (node : Node) : Bool := node.key.isSet

/-- The nodes, of which those below `used` have been handed out by the pool. -/
structure InputMap where
  node : Addr → Node := fun _ => {}
  used : ℕ := 1

namespace Node

def getChild (node : Node) (ch : UInt8) : Option Addr :=
  if node.childCount ≤ kTinyCount then
    ((node.tiny.take node.childCount).find? fun e => e.1 = ch).map (·.2)
  else
    node.branch ch

/-- Where a new child goes among the sorted ones. -/
def insertIndex (node : Node) (ch : UInt8) : ℕ :=
  (node.tiny.take node.childCount).findIdx fun e => ch < e.1

/-- The node with one child more, in the small arrays. -/
def insertTiny (node : Node) (ch : UInt8) (ret : Addr) : Node :=
  let i := node.insertIndex ch
  { node with
    tiny := node.tiny.take i ++ (ch, ret) :: node.tiny.drop i
    childCount := node.childCount + 1 }

/-- A branch with the children of the small arrays. -/
def branchOfTiny (node : Node) : UInt8 → Option Addr :=
  (node.tiny.take node.childCount).foldl (fun branch e => Function.update branch e.1 (some e.2))
    fun _ => none

/-- The node with one child more, in the branch. -/
def insertBranch (node : Node) (ch : UInt8) (ret : Addr) : Node :=
  let branch := if node.childCount = kTinyCount then node.branchOfTiny else node.branch
  { node with branch := Function.update branch ch (some ret), childCount := node.childCount + 1 }

/-- The node with one child more. -/
def insert (node : Node) (ch : UInt8) (ret : Addr) : Node :=
  if node.childCount < kTinyCount then node.insertTiny ch ret
  else node.insertBranch ch ret

end Node

namespace InputMap

/-- Hand out a node. -/
def alloc (m : InputMap) : InputMap × Addr :=
  ({ node := Function.update m.node m.used {}, used := m.used + 1 }, m.used)

def getOrCreateChild (m : InputMap) (n : Addr) (ch : UInt8) : InputMap × Addr :=
  match (m.node n).getChild ch with
  | some ret => (m, ret)
  | none =>
      let (m', ret) := m.alloc
      ({ m' with node := Function.update m'.node n ((m'.node n).insert ch ret) }, ret)

def setHelper (m : InputMap) (n : Addr) : Bytes → Key → InputMap
  | [], key => { m with node := Function.update m.node n { m.node n with key := key } }
  | ch :: encoding, key =>
      let (m', child) := m.getOrCreateChild n ch
      setHelper m' child encoding key

/-- `none` where the assertion fails. -/
def set (m : InputMap) (encoding : Bytes) (key : Key) : Option InputMap :=
  if encoding.length > 0 then some (m.setHelper 0 encoding key) else none

/-- Find the longest matching key, from a node on. -/
def lookupFrom (m : InputMap) : Bytes → Addr → ℕ → ℕ → Key → ℕ × Key × Bool
  | [], node, _, longestMatchLen, longestMatch =>
      (longestMatchLen, longestMatch, (m.node node).childCount > 0)
  | ch :: input, node, i, longestMatchLen, longestMatch =>
      match (m.node node).getChild ch with
      | none => (longestMatchLen, longestMatch, false)
      | some child =>
          if (m.node child).hasKey then m.lookupFrom input child (i + 1) (i + 1) (m.node child).key
          else m.lookupFrom input child (i + 1) longestMatchLen longestMatch

/-- The length of the longest matching key, the key, and whether the input is incomplete. -/
def lookupKey (m : InputMap) (input : Bytes) : ℕ × Key × Bool := m.lookupFrom input 0 0 0 kKeyZero

/-- The map after a run of calls of `set` from the empty map. -/
def setAll (entries : List (Bytes × Key)) : Option InputMap :=
  entries.foldlM (fun m e => m.set e.1 e.2) {}

end InputMap

end InitialSetups.Winpty
