import Branch.Agreement.ApplicationCapabilities
import Branch.Agreement.ApplicationControl
import Branch.Agreement.ApplicationPayload
import Branch.Agreement.BootstrapBeacon
import Branch.Agreement.Cbor
import Branch.Agreement.IdentityContact
import Branch.Agreement.RtcData
import Branch.Agreement.RtcSignaling
import Branch.Agreement.SignedEvent
import Branch.Agreement.Spelling
import Branch.Core.ApplicationCapabilities
import Branch.Core.ApplicationControl
import Branch.Core.Attachment
import Branch.Core.AttachmentWire
import Branch.Core.BeaconObservations
import Branch.Core.BootstrapBeacon
import Branch.Core.Cbor
import Branch.Core.ControlReplay
import Branch.Core.DnsTxt
import Branch.Core.EchoRoutes
import Branch.Core.FlatRecords
import Branch.Core.IdentityContact
import Branch.Core.Image
import Branch.Core.ImageTransferRegistry
import Branch.Core.ImageTransferState
import Branch.Core.ImageWire
import Branch.Core.MediaRecords
import Branch.Core.OutboundControl
import Branch.Core.ReceivedChunks
import Branch.Core.RibbonFrame
import Branch.Core.RouteSnapshot
import Branch.Core.RtcBodies
import Branch.Core.RtcDataWire
import Branch.Core.RtcWire
import Branch.Core.SignedEvent
import Branch.Core.TransferCompletion
import Branch.Core.TransferPhases
import Branch.Core.TransferRegistry
import Branch.Core.TransferState
import Branch.Lib.Base64
import Branch.Lib.Cbor
import Branch.Lib.Decimal
import Branch.Lib.Except
import Branch.Lib.ExpiringMemory
import Branch.Lib.Fields
import Branch.Lib.Increasing
import Branch.Lib.IndexedStore
import Branch.Lib.InsertionMap
import Branch.Lib.Json
import Branch.Lib.JsonMarshal
import Branch.Lib.KeysetPages
import Branch.Lib.Latest
import Branch.Lib.LeaseWindow
import Branch.Lib.PendingWrites
import Branch.Lib.Pieces
import Branch.Lib.Sha256
import Branch.Lib.TableUnion
import Branch.Lib.Text
import Branch.Lib.Utf16
import Branch.Lib.Utf8
import Branch.Protocol.ApplicationCapabilities
import Branch.Protocol.ApplicationControl
import Branch.Protocol.BootstrapBeacon
import Branch.Protocol.CborDecode
import Branch.Protocol.Creation
import Branch.Protocol.FrameFields
import Branch.Protocol.Identifiers
import Branch.Protocol.IdentityContact
import Branch.Protocol.RelayAttachment
import Branch.Protocol.RtcData
import Branch.Protocol.RtcSignaling
import Branch.Protocol.SignedEvent
import Branch.Pwa.AttachmentBounds
import Branch.Pwa.AttachmentChanges
import Branch.Pwa.AttachmentOwnership
import Branch.Pwa.AttachmentReplays
import Branch.Pwa.AttachmentWindow
import Branch.Pwa.ChatTimeline
import Branch.Pwa.ContactDiscoveryRuntime
import Branch.Pwa.ContactDiscoveryScheduler
import Branch.Pwa.ContactPresence
import Branch.Pwa.ContactPresenceRuntime
import Branch.Pwa.DeliveryEvidence
import Branch.Pwa.DrainSlot
import Branch.Pwa.DrainedEnvelopes
import Branch.Pwa.ImageProjections
import Branch.Pwa.MessageWrites
import Branch.Pwa.OutboxRetention
import Branch.Pwa.OutboxWrites
import Branch.Pwa.PresencePong
import Branch.Pwa.ReceiptControls
import Branch.Pwa.ReceiptReplay
import Branch.Pwa.ReceiptSends
import Branch.Pwa.RtcAdmission
import Branch.Pwa.RtcAgreement
import Branch.Pwa.RtcEffects
import Branch.Pwa.RtcOwners
import Branch.Pwa.Tab
import Branch.Pwa.TargetStores
import Branch.Pwa.TimelineStore
import Branch.Relay.Cleanup
import Branch.Relay.Forwarders
import Branch.Relay.Inbox
import Branch.Relay.Invariant
import Branch.Relay.Presence
import Branch.Relay.Quota
import Branch.Relay.Rendezvous
import Branch.Relay.Replay
import Branch.Relay.Routes
import Branch.Relay.Sessions
import Branch.Relay.Sharing
import Branch.Relay.System
import Branch.Relay.Tables
import Branch.Wss.Assertions
import Branch.Wss.BridgeReadLoop
import Branch.Wss.BridgeResponses
import Branch.Wss.ContactCacheRuns
import Branch.Wss.ContactDiscovery
import Branch.Wss.ContactRecords
import Branch.Wss.DiscoveredFederation
import Branch.Wss.FederatedLookups
import Branch.Wss.FederatedProbes
import Branch.Wss.FederationDial
import Branch.Wss.FederationEndpoint
import Branch.Wss.FederationRequests
import Branch.Wss.Handler
import Branch.Wss.IdentityContactCache
import Branch.Wss.IdentityHave
import Branch.Wss.ImposedFaults
import Branch.Wss.LatestBeacons
import Branch.Wss.PathMigration
import Branch.Wss.RetainedViews
import Branch.Wss.SenderAttribution
import Branch.Wss.Sequences
import Branch.Wss.TypedFrame
