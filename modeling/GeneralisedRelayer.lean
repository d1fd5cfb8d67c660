import GeneralisedRelayer.Store.Json
import GeneralisedRelayer.Store.JsonText
import GeneralisedRelayer.Store.Lib
import GeneralisedRelayer.Store.Runs
import GeneralisedRelayer.Store.Fields
import GeneralisedRelayer.Store.Status
import GeneralisedRelayer.Store.Prices
import GeneralisedRelayer.Store.GetBounty
import GeneralisedRelayer.Store.Concurrent
import GeneralisedRelayer.Store.Merge
import GeneralisedRelayer.Store.TextStore
import GeneralisedRelayer.Store.TextConcurrent
import GeneralisedRelayer.Collector.Scan
import GeneralisedRelayer.Collector.Bytes
import GeneralisedRelayer.Collector.Utf8
import GeneralisedRelayer.Collector.LayerZero
import GeneralisedRelayer.Collector.AmbJson
import GeneralisedRelayer.Submitter.Config
import GeneralisedRelayer.Submitter.SubmitQueue
