import CStoreWriter.Storage.Page
import CStoreWriter.Storage.WriteToFile
import CStoreWriter.Datum
import CStoreWriter.SkipNode
import CStoreWriter.Metadata
import CStoreWriter.Storage.Footer
import CStoreWriter.WriteState
import CStoreWriter.BoolArray
import CStoreWriter.FlushStripe
import CStoreWriter.WriteRow
import CStoreWriter.Session
import CStoreWriter.Blocks
import CStoreWriter.OpenStripe
import CStoreWriter.ReadBack
import CStoreWriter.Load
import CStoreWriter.Progress
import CStoreWriter.Interleave
