import TonIndexer.Python.Basic
import TonIndexer.Python.Codecs
import TonIndexer.Python.Utf8
import TonIndexer.Python.Utf8Errors
import TonIndexer.Python.Readback
import TonIndexer.Python.Sha256
import TonIndexer.Events.Core
import TonIndexer.Events.Blocks
import TonIndexer.Serializer.Action
import TonIndexer.Serializer.Base
import TonIndexer.Serializer.Normalizers
import TonIndexer.Serializer.BlockToAction
import TonIndexer.Theorems.Pipeline
import TonIndexer.Theorems.Aggregates
import TonIndexer.Theorems.Permutation
import TonIndexer.Theorems.Totality
import TonIndexer.Theorems.Raises
import TonIndexer.Theorems.Normalization
import TonIndexer.Theorems.Payloads
import TonIndexer.Theorems.Encodings
import TonIndexer.Theorems.Exceptions
import TonIndexer.Theorems.Provenance
