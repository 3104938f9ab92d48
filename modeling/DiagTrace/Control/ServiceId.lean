import DiagTrace.Text.Hex

/-! Numbers of the control services, and the names under which a trace shows them. -/
namespace DiagTrace.Control

abbrev ServiceId := UInt32

namespace ServiceId

def setLogLevel : ServiceId := 0x01
def setTraceStatus : ServiceId := 0x02
def getLogInfo : ServiceId := 0x03
def getDefaultLogLevel : ServiceId := 0x04
def storeConfig : ServiceId := 0x05
def resetFactoryDefault : ServiceId := 0x06
def setVerboseMode : ServiceId := 0x09
def setMessageFiltering : ServiceId := 0x0A
def setTimingPackets : ServiceId := 0x0B
def getLocalTime : ServiceId := 0x0C
def useEcuId : ServiceId := 0x0D
def useSessionId : ServiceId := 0x0E
def useTimestamp : ServiceId := 0x0F
def useExtendedHeader : ServiceId := 0x10
def setDefaultLogLevel : ServiceId := 0x11
def setDefaultTraceStatus : ServiceId := 0x12
def getSoftwareVersion : ServiceId := 0x13
def messageBufferOverflow : ServiceId := 0x14
def getDefaultTraceStatus : ServiceId := 0x15
def getVerboseMode : ServiceId := 0x19
def getMessageFiltering : ServiceId := 0x1A
def getUseEcuId : ServiceId := 0x1B
def getUseSessionId : ServiceId := 0x1C
def getUseTimestamp : ServiceId := 0x1D
def getUseExtendedHeader : ServiceId := 0x1E
def getTraceStatus : ServiceId := 0x1F
def bufferOverflow : ServiceId := 0x23
def syncTimestamp : ServiceId := 0x24
def unregisterContext : ServiceId := 0xF01
def connectionInfo : ServiceId := 0xF02
def timeZone : ServiceId := 0xF03
def marker : ServiceId := 0xF04

/-- Services from this number on inject software messages unless they are registered otherwise. -/
def firstInjection : ServiceId := 0xFFF

def names : List (ServiceId × String) :=
  [(setLogLevel, "set_log_level"), (setTraceStatus, "set_trace_status"),
   (getLogInfo, "get_log_info"), (getDefaultLogLevel, "get_default_log_level"),
   (storeConfig, "store_config"), (resetFactoryDefault, "reset_factory_default"),
   (setVerboseMode, "set_verbose_mode"), (setMessageFiltering, "set_message_filtering"),
   (setTimingPackets, "set_timing_packets"), (getLocalTime, "get_local_time"),
   (useEcuId, "use_ecu_id"), (useSessionId, "use_session_id"), (useTimestamp, "use_timestamp"),
   (useExtendedHeader, "use_extended_header"), (setDefaultLogLevel, "set_default_log_level"),
   (setDefaultTraceStatus, "set_default_trace_status"),
   (getSoftwareVersion, "get_software_version"),
   (messageBufferOverflow, "message_buffer_overflow"),
   (getDefaultTraceStatus, "get_default_trace_status"), (getVerboseMode, "get_verbose_mode"),
   (getMessageFiltering, "get_message_filtering"), (getUseEcuId, "get_use_ecu_id"),
   (getUseSessionId, "get_use_session_id"), (getUseTimestamp, "get_use_timestamp"),
   (getUseExtendedHeader, "get_use_extended_header"), (getTraceStatus, "get_trace_status"),
   (bufferOverflow, "buffer_overflow"), (syncTimestamp, "sync_timestamp"),
   (unregisterContext, "unregister_context"), (connectionInfo, "connection_info"),
   (timeZone, "timezone"), (marker, "marker")]

/-- The name of a service; a service without one is shown by its number. -/
def text (id : ServiceId) : String :=
  (names.lookup id).getD ("service_0x" ++ Hex.number 1 id.toNat)

end ServiceId

end DiagTrace.Control
