import CanScope.Capture.Onlooker
import CanScope.Log.Describe
import CanScope.Main
import CanScope.Screen.Window
import CanScope.Proofs.Bus.Closing
import CanScope.Proofs.Bus.Shared
import CanScope.Proofs.Bus.Latest
import CanScope.Proofs.Cache.Coalesce
import CanScope.Proofs.Cache.Held
import CanScope.Proofs.Cache.Stack
import CanScope.Proofs.Screen.Lossless
import CanScope.Proofs.Screen.Staleness
import CanScope.Proofs.Capture.Flexible
import CanScope.Proofs.Capture.Times
import CanScope.Proofs.Flag.Words
import CanScope.Proofs.Gate.Retry
import CanScope.Proofs.Overlay.Run
import CanScope.Proofs.Overlay.Schedule
import CanScope.Proofs.Session.Essence
import CanScope.Proofs.Session.Idle
import CanScope.Proofs.Session.Kinds
import CanScope.Proofs.Session.Playback
import CanScope.Proofs.Capture.Player
