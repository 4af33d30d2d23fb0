import LinphoneSdk.Lib.Bytes

/-!
# Message blocks of the media filters

The packets and the frames that the filters exchange carry their bytes in one block, with what the RTP header is
written from and read into.
-/

namespace Ms2

structure Mblk where
  timestamp_info : UInt32 := 0
  marker_info : Bool := false
  cseq : UInt16 := 0
  independent_flag : Bool := false
  discardable_flag : Bool := false
  bytes : Bytes
  deriving DecidableEq, Repr

end Ms2
