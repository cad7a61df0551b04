/-
  Connectivity.Error — why an operation of the control plane fails. Each cause belongs to one of
  sixteen kinds; the kind fixes the result code and the heading of the message, the cause the
  rest of it.
-/

import Connectivity.Parameter.Field
import Connectivity.Roster.Handle
import Connectivity.Store
import Connectivity.Text.Quoted
import Connectivity.Text.Utf8

namespace Connectivity

/-! ## Log codes -/

/-- Codes under which internal errors and dropped events are logged. -/
inductive LogCode where
  | handleSlotMissing
  | refCountUnderflow
  | handleLockContended
  | modeTableMissing
  | notifyQueueFull
  | notifyDispatcherGone
  | interfaceUnassigned
  | stopPreTimeout
  | eventDropped
  | dhcpReleaseFailed
  deriving DecidableEq, Repr

namespace LogCode

def value : LogCode → Nat
  | .handleSlotMissing => 0x8101
  | .refCountUnderflow => 0x8102
  | .handleLockContended => 0x8103
  | .modeTableMissing => 0x8104
  | .notifyQueueFull => 0x8201
  | .notifyDispatcherGone => 0x8202
  | .interfaceUnassigned => 0x8301
  | .stopPreTimeout => 0x8302
  | .eventDropped => 0x8303
  | .dhcpReleaseFailed => 0x8401

/-- The code to base sixteen. -/
def text (c : LogCode) : String := String.ofList ('0' :: 'x' :: Text.hex c.value)

end LogCode

/-! ## Kinds -/

inductive ErrorKind where
  | invalidParameter
  | invalidHandleType
  | statusUnexecutable
  | statusAlreadyRunning
  | failedPrecondition
  | notFound
  | resourceExhausted
  | hardware
  | ipAddress
  | dhcpServer
  | external
  | alreadyRegistered
  | alreadyUnregistered
  | noConnectInfo
  | timeout
  | internal (code : LogCode)
  deriving DecidableEq, Repr

namespace ErrorKind

/-- The result code; zero stands for success and is no kind's code. -/
def code : ErrorKind → Nat
  | .invalidParameter => 1
  | .invalidHandleType => 2
  | .statusUnexecutable => 3
  | .statusAlreadyRunning => 4
  | .failedPrecondition => 5
  | .notFound => 6
  | .resourceExhausted => 7
  | .hardware => 8
  | .ipAddress => 9
  | .dhcpServer => 10
  | .external => 11
  | .alreadyRegistered => 12
  | .alreadyUnregistered => 13
  | .noConnectInfo => 14
  | .timeout => 15
  | .internal _ => 16

/-- The message of a kind with the given detail; three kinds say all there is to say. -/
def describe (detail : String) : ErrorKind → String
  | .invalidParameter => "Invalid parameter: " ++ detail
  | .invalidHandleType => "Invalid handle type: " ++ detail
  | .statusUnexecutable => "Status unexecutable: " ++ detail
  | .statusAlreadyRunning => "Status already running: " ++ detail
  | .failedPrecondition => "Failed precondition: " ++ detail
  | .notFound => "Not found: " ++ detail
  | .resourceExhausted => "Resource exhausted: " ++ detail
  | .hardware => "Hardware interface error: " ++ detail
  | .ipAddress => "IP address utility error: " ++ detail
  | .dhcpServer => "DHCP server utility error: " ++ detail
  | .external => "External error: " ++ detail
  | .alreadyRegistered => "Callback already registered"
  | .alreadyUnregistered => "Callback already unregistered"
  | .noConnectInfo => "No connection information saved"
  | .timeout => "Timed out waiting for " ++ detail
  | .internal c => "Internal error [" ++ c.text ++ "]: " ++ detail

end ErrorKind

/-! ## Causes -/

/-- What a record is checked for: keeping it, or starting a connection with it. -/
inductive Purpose where
  | connect
  | save
  deriving DecidableEq, Repr

def Purpose.text : Purpose → String
  | .connect => "connect"
  | .save => "save"

/-- What is wrong with a policy. -/
inductive PolicyFault where
  | noNotifyQueue
  | noRetryInterval
  | noControlHandle (mode : Mode)
  | tableTooLarge
  /-- The text is no TOML document, or a value in it has the wrong type. -/
  | unreadable
  deriving DecidableEq, Repr

def PolicyFault.text : PolicyFault → String
  | .noNotifyQueue => "notify_queue_depth must be non-zero"
  | .noRetryInterval => "dhcp_retry_interval_secs must be non-zero"
  | .noControlHandle mode => mode.text ++ " needs at least one control handle"
  | .tableTooLarge => "handle table too large"
  | .unreadable => "config: ..."

/-- The parts of a static address. -/
inductive AddressPart where
  | address
  | netmask
  | gateway
  | dns
  deriving DecidableEq, Repr

def AddressPart.text : AddressPart → String
  | .address => "address"
  | .netmask => "netmask"
  | .gateway => "gateway"
  | .dns => "dns"

/-- Why a table of handles could not be made. -/
inductive AllocationFault where
  | capacityOverflow
  | outOfMemory
  deriving DecidableEq, Repr

def AllocationFault.text : AllocationFault → String
  | .capacityOverflow =>
    "memory allocation failed because the computed capacity exceeded the collection's maximum"
  | .outOfMemory => "memory allocation failed because the memory allocator returned an error"

/-- Why a file could not be read. -/
inductive FileFault where
  | notFound
  deriving DecidableEq, Repr

def FileFault.text : FileFault → String
  | .notFound => "No such file or directory (os error 2)"

inductive Error where
  | emptyMask
  | rejected (f : Field) (purpose : Purpose)
  | tooLong (f : TextField)
  | badInterfaceKind (raw : Int)
  | badEncryption (raw : Int)
  | badChannel (raw : Int)
  | badPolicy (fault : PolicyFault)
  | legacyInterfaceKind (raw : Int)
  | legacyText (e : Text.Utf8.Malformed)
  | legacyNumber (text : String)
  | notControlHandle (h : Handle)
  | notInitialized
  | alreadyRunning (mode : Mode) (status : Status)
  | handleInUse (h : Handle)
  | someHandleInUse
  | modeRunning (mode : Mode) (status : Status)
  | controlBusy (mode : Mode)
  | noInterfaceOfKind (mode : Mode) (kind : InterfaceKind)
  | noInterface (mode : Mode)
  | notStation (mode : Mode)
  | unknownHandle (h : Handle)
  | handleLimit (mode : Mode) (access : Access) (limit : UInt64)
  | tableAllocation (fault : AllocationFault)
  | platform (e : PlatformError)
  | leaseTooShort (seconds : UInt32)
  | badAddress (part : AddressPart) (text : String)
  | dhcpServer (e : PlatformError)
  | storage (e : StoreError)
  | file (path : String) (fault : FileFault)
  | callbackRegistered
  | callbackUnregistered
  | noConnectInfo
  | resourceLockTimeout
  | noCloudInterface
  | noFreeSlot
  | slotVanished (h : Handle)
  | countUnderflow (h : Handle)
  | tableReleased
  deriving DecidableEq, Repr

namespace Error

def kind : Error → ErrorKind
  | .emptyMask => .invalidParameter
  | .rejected _ _ => .invalidParameter
  | .tooLong _ => .invalidParameter
  | .badInterfaceKind _ => .invalidParameter
  | .badEncryption _ => .invalidParameter
  | .badChannel _ => .invalidParameter
  | .badPolicy _ => .invalidParameter
  | .legacyInterfaceKind _ => .invalidParameter
  | .legacyText _ => .invalidParameter
  | .legacyNumber _ => .invalidParameter
  | .notControlHandle _ => .invalidHandleType
  | .notInitialized => .statusUnexecutable
  | .alreadyRunning _ _ => .statusAlreadyRunning
  | .handleInUse _ => .failedPrecondition
  | .someHandleInUse => .failedPrecondition
  | .modeRunning _ _ => .failedPrecondition
  | .controlBusy _ => .failedPrecondition
  | .noInterfaceOfKind _ _ => .failedPrecondition
  | .noInterface _ => .failedPrecondition
  | .notStation _ => .failedPrecondition
  | .unknownHandle _ => .notFound
  | .handleLimit _ _ _ => .resourceExhausted
  | .tableAllocation _ => .resourceExhausted
  | .platform _ => .hardware
  | .leaseTooShort _ => .hardware
  | .badAddress _ _ => .ipAddress
  | .dhcpServer _ => .dhcpServer
  | .storage _ => .external
  | .file _ _ => .external
  | .callbackRegistered => .alreadyRegistered
  | .callbackUnregistered => .alreadyUnregistered
  | .noConnectInfo => .noConnectInfo
  | .resourceLockTimeout => .timeout
  | .noCloudInterface => .internal .interfaceUnassigned
  | .noFreeSlot => .internal .handleSlotMissing
  | .slotVanished _ => .internal .handleSlotMissing
  | .countUnderflow _ => .internal .refCountUnderflow
  | .tableReleased => .internal .modeTableMissing

/-- What the message says after the heading of its kind. -/
def detail : Error → String
  | .emptyMask => "empty mask"
  | .rejected f purpose => f.path ++ " (" ++ purpose.text ++ ")"
  | .tooLong f => (Field.text f).key ++ " does not fit " ++ toString f.capacity ++ " bytes"
  | .badInterfaceKind raw => "netif kind " ++ toString raw
  | .badEncryption raw => "encryption " ++ toString raw
  | .badChannel raw => "channel " ++ toString raw
  | .badPolicy fault => fault.text
  | .legacyInterfaceKind raw => "legacy netif kind " ++ toString raw
  | .legacyText e => "legacy text: " ++ e.message
  | .legacyNumber text => "legacy number " ++ Text.quote text
  | .notControlHandle h => "handle " ++ h.text ++ " is not a control handle"
  | .notInitialized => "connection manager is not initialized"
  | .alreadyRunning mode status => mode.text ++ " is " ++ status.text
  | .handleInUse h => "handle " ++ h.text ++ " is in use"
  | .someHandleInUse => "a handle is still in use"
  | .modeRunning mode status => mode.text ++ " is " ++ status.text
  | .controlBusy mode => "a control operation on " ++ mode.text ++ " is in progress"
  | .noInterfaceOfKind mode kind => mode.text ++ " has no " ++ kind.text ++ " interface"
  | .noInterface mode => mode.text ++ " has no interface"
  | .notStation mode => mode.text ++ " is not using a wifi station"
  | .unknownHandle h => "handle " ++ h.text
  | .handleLimit mode access limit =>
    mode.text ++ " allows " ++ toString limit.toNat ++ " " ++ access.label ++ " handles"
  | .tableAllocation fault => "handle table: " ++ fault.text
  | .platform e => e.message
  | .leaseTooShort seconds => "lease time " ++ toString seconds.toNat ++ "s too short"
  | .badAddress part text => part.text ++ " " ++ Text.quote text
  | .dhcpServer e => e.message
  | .storage e => e.message
  | .file path fault => "read " ++ path ++ ": " ++ fault.text
  | .callbackRegistered => ""
  | .callbackUnregistered => ""
  | .noConnectInfo => ""
  | .resourceLockTimeout => "resource lock"
  | .noCloudInterface => "no cloud-enabled interface reported"
  | .noFreeSlot => "no free slot"
  | .slotVanished h => "handle " ++ h.text
  | .countUnderflow h => "handle " ++ h.text
  | .tableReleased => "handle table released while open"

def code (e : Error) : Nat := e.kind.code

def message (e : Error) : String := e.kind.describe e.detail

end Error

end Connectivity
