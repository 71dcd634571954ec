import MessageBoard.Session
import MessageBoard.Proofs.Calendar.LocalTime
import MessageBoard.Proofs.Calendar.Weeks
import MessageBoard.Proofs.Crowd.Serial
import MessageBoard.Proofs.Log.Counters
import MessageBoard.Proofs.Pattern.Digits
import MessageBoard.Proofs.Session.Erasure
import MessageBoard.Proofs.Session.Families
import MessageBoard.Proofs.Session.History
import MessageBoard.Proofs.Session.Poisoning
import MessageBoard.Proofs.Session.Polling
import MessageBoard.Proofs.Session.Saving
import MessageBoard.Proofs.Session.SettingsFile
import MessageBoard.Proofs.Session.Team
import MessageBoard.Proofs.Settings.Loading
import MessageBoard.Proofs.Settings.RoundTrip
import MessageBoard.Proofs.Pattern.Reading
import MessageBoard.Proofs.Pattern.Composition
import MessageBoard.Proofs.Entry.Clock
import MessageBoard.Proofs.Entry.Days
import MessageBoard.Proofs.Text.Display
import MessageBoard.Proofs.Text.Records
