import ServiceChannel.Digest.Algorithm
import ServiceChannel.Main
import ServiceChannel.Proofs.Channel.Attributes
import ServiceChannel.Proofs.Channel.Cleanup
import ServiceChannel.Proofs.Channel.Fleet
import ServiceChannel.Proofs.Channel.Headers
import ServiceChannel.Proofs.Channel.Hosting
import ServiceChannel.Proofs.Channel.Isolation
import ServiceChannel.Proofs.Channel.Ladder
import ServiceChannel.Proofs.Channel.Limits
import ServiceChannel.Proofs.Channel.Milestones
import ServiceChannel.Proofs.Channel.Programs
import ServiceChannel.Proofs.Channel.Reentrancy
import ServiceChannel.Proofs.Channel.Replies
import ServiceChannel.Proofs.Channel.Retention
import ServiceChannel.Proofs.Channel.Rounds
import ServiceChannel.Proofs.Channel.SendOutcomes
import ServiceChannel.Proofs.Channel.StopRequests
import ServiceChannel.Proofs.Channel.Stops
import ServiceChannel.Proofs.Channel.Subscription
import ServiceChannel.Proofs.Channel.Teardowns
import ServiceChannel.Proofs.Channel.View
import ServiceChannel.Proofs.Client.Reception
import ServiceChannel.Proofs.Message.Catalog
import ServiceChannel.Proofs.Message.Tolerance
