import Miso.Base.Run
import Miso.Base.Queue
import Miso.Base.Timers
import Miso.Base.Frame
import Miso.FdSet
import Miso.Slot
import Miso.Mediator
import Miso.MediatorRace
import Miso.MediatorWait
import Miso.MediatorAtomic
import Miso.MediatorRefine
import Miso.MediatorSleep
import Miso.MediatorProtocol
import Miso.MediatorAnswer
import Miso.Timing
import Miso.Base.Errdefer
import Miso.Connection
import Miso.SimpleLink
import Miso.Tls
import Miso.TlsOpen
import Miso.Sdmm
import Miso.SdmmMedia
import Miso.Base.Notify
import Miso.WifiOrder
import Miso.Base.CString
import Miso.ConfigLoad
import Miso.ConfigDocument
import Miso.ConfigResult
import Miso.ConfigTerminated
import Miso.TlsBalance
import Miso.TlsSend
import Miso.Base.Chain
import Miso.Lwm2m
import Miso.Lwm2mList
import Miso.Base.Ledger
import Miso.Lwm2mBalance
import Miso.Cc3100
import Miso.MediatorServices
import Miso.WifiConnected
import Miso.ConfigUnknown
import Miso.Nvm
import Miso.WifiUnrelated
import Miso.Base.Latest
import Miso.ConfigReads
import Miso.ConfigNtp
import Miso.ConfigNtpResult
import Miso.ConfigExit
import Miso.TimingRace
import Miso.MediatorDeadline
import Miso.Base.Emission
import Miso.SdmmTraffic
import Miso.SdmmTransfers
import Miso.I2c
import Miso.Cc3100Interrupt
import Miso.Base.Written
import Miso.SimpleLinkUdp
import Miso.Base.Scan
import Miso.Lwm2mObjects
import Miso.Base.Wrapped
import Miso.FreeRtos
import Miso.SimpleLinkPool
import Miso.SimpleLinkPoolLists
import Miso.SimpleLinkPoolRuns
import Miso.SimpleLinkPoolKeys
import Miso.Base.Keyed
import Miso.Lwm2mServer
import Miso.Lwm2mServerSpec
import Miso.Base.Resync
import Miso.SimpleLinkRx
import Miso.SimpleLinkMsg
import Miso.Base.Packed
import Miso.FatFs
import Miso.FatFsChain
import Miso.FatFsCopies
import Miso.FatFsFileRuns
import Miso.FatFsMount
import Miso.FatFsContents
