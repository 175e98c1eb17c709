import InitialSetups.Shell.Triple
import InitialSetups.Files.Commands
import InitialSetups.Scripts.Dotfiles
import InitialSetups.FailFast.Log
import InitialSetups.FailFast.MyUbuntu
import InitialSetups.Interactive.UbuntuSetup2
import InitialSetups.Dotfiles.Machine
import InitialSetups.Dotfiles.Converge
import InitialSetups.Scripts.Clock
import InitialSetups.Dotfiles.Saved
import InitialSetups.Files.Seats
import InitialSetups.Dotfiles.Slots
import InitialSetups.Dotfiles.Failures
import InitialSetups.Dotfiles.Kept
import InitialSetups.Text.Ere
import InitialSetups.Packages.Dpkg
import InitialSetups.Packages.Loop
import InitialSetups.Settings.Effective
import InitialSetups.Tmux.Lookup
import InitialSetups.Bert.Full
import InitialSetups.Text.Dotted
import InitialSetups.Tmux.CommandLine
import InitialSetups.Winpty.LongestMatch
import InitialSetups.Text.Stream
import InitialSetups.Winpty.Unicode
import InitialSetups.Winpty.Pieces
import InitialSetups.Winpty.Terminal
import InitialSetups.Winpty.SendLine
import InitialSetups.Winpty.TerminalRun
import InitialSetups.Winpty.Layout
import InitialSetups.Winpty.ConsoleLine
import InitialSetups.Winpty.LargeConsoleRead
import InitialSetups.Winpty.Scraper
import InitialSetups.Winpty.DirectMode
import InitialSetups.Winpty.ScrollingMode
import InitialSetups.Winpty.Document
import InitialSetups.Winpty.Scrollback
