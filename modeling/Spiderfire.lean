import Spiderfire.Basic
import Spiderfire.EventLoop.Microtasks
import Spiderfire.Fetch.Headers
import Spiderfire.Fetch.Url
import Spiderfire.Fetch.Request
import Spiderfire.Fetch.Response
import Spiderfire.Fetch.Network
import Spiderfire.Fetch.DataUrl
import Spiderfire.Fetch.MainFetch
import Spiderfire.Fetch.Filtering
import Spiderfire.Fetch.Pipeline
import Spiderfire.Fetch.Guarantees
import Spiderfire.Fetch.Panics
import Spiderfire.Fetch.Abort
import Spiderfire.File.Reader
import Spiderfire.File.Base64
import Spiderfire.File.RoundTrip
import Spiderfire.File.Encoding
import Spiderfire.File.FileReader
import Spiderfire.Fetch.Ranges
import Spiderfire.Fetch.Hops
import Spiderfire.Ion.Date
import Spiderfire.Ion.ArrayFormat
import Spiderfire.IonProc.Trace
import Spiderfire.Ion.ArrayIter
import Spiderfire.Ion.Iterator
import Spiderfire.Fetch.Body
