import VirtualLte.Crypto.Rfc4493
import VirtualLte.Crypto.Ts33501
import VirtualLte.Nas.EstablishmentRequest
import VirtualLte.Nas.Reads
import VirtualLte.Nas.MmElements
import VirtualLte.Nas.EstablishmentAccept
import VirtualLte.Ran.Acks
import VirtualLte.Ran.Peers
import VirtualLte.Sm.Release
import VirtualLte.Up.SessionTable
import VirtualLte.Mbim.Framing
import VirtualLte.Mbim.AttachConfig
import VirtualLte.Mbim.Received
import VirtualLte.Mbim.Ordering
import VirtualLte.Mbim.ExactlyOnce
import VirtualLte.Mbim.Announcement
import VirtualLte.Mbim.Session
import VirtualLte.Ep0
import VirtualLte.Sm.Retransmission
import VirtualLte.ApnContext
import VirtualLte.Ims.Rfc1321
import VirtualLte.Ims.Delivery
import VirtualLte.Ims.Registration
import VirtualLte.Ims.Refresh
import VirtualLte.Ims.RelayAck
import VirtualLte.Safety.Attempt
import VirtualLte.Safety.UserPlane
import VirtualLte.Safety.RrcSetup
import VirtualLte.Safety.IntegrityGate
import VirtualLte.Safety.Reauthentication
import VirtualLte.Safety.UplinkFresh
import VirtualLte.Safety.Replay
import VirtualLte.Safety.SimAbsent
import VirtualLte.Safety.RepeatedCommand
