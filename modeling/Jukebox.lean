import Jukebox.Controller.Keys
import Jukebox.Main
import Jukebox.Proofs.AddAll
import Jukebox.Proofs.BrokenConnection
import Jukebox.Proofs.CutRun
import Jukebox.Proofs.ListBounds
import Jukebox.Proofs.Typing
import Jukebox.Screen
import Jukebox.Script.Standard
import Jukebox.Startup.Launch
import Jukebox.Startup.Usage
import Jukebox.Proofs.KeyNotation
import Jukebox.Proofs.Scanning
import Jukebox.Proofs.StoredBinding
import Jukebox.Proofs.CutInStep
import Jukebox.Proofs.Stock
import Jukebox.Proofs.Sparing
import Jukebox.Proofs.StockRun
import Jukebox.Proofs.ResponseFraming
import Jukebox.Proofs.RequestLine
import Jukebox.Proofs.FreshCommands
import Jukebox.Proofs.TemplateNotation
import Jukebox.Proofs.ConnectionTimes
import Jukebox.Proofs.Searching
import Jukebox.Proofs.SettingLine
import Jukebox.Proofs.SearchSession
import Jukebox.Proofs.TrackOrder
import Jukebox.Proofs.UsualOrder
import Jukebox.Proofs.SongListing
import Jukebox.Proofs.Watching
import Jukebox.Proofs.CutAndPaste
import Jukebox.Proofs.PlayAdded
import Jukebox.Proofs.Scrolling
import Jukebox.Proofs.Selecting
import Jukebox.Proofs.TagGroups
import Jukebox.Proofs.VolumeRequests
import Jukebox.Proofs.FullRows
import Jukebox.Proofs.LinePieces
import Jukebox.Proofs.NumberNotation
