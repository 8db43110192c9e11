import VjBlockchain.Crypt.KeyWrap
import VjBlockchain.Util.Native
/-!
# The suite under native methods — what its calls throw

A call of the suite that goes through memory throws the one exception it is
told to throw, or leaves a buffer.
-/

namespace VjBlockchain

open Common Common.Bytes Common.Throwing

variable {V : Vccrypt} {failure : String}

theorem throwsOnly_streamEncrypt {stream : V.stream.Instance} {input buffer : Bytes}
    {out offset : ℕ} :
    ThrowsOnly (streamEncrypt V stream input buffer out offset failure) (.illegalState failure) :=
  .bind (.orThrow _) fun _ => .bind (.access _) fun _ => .ok _

theorem throwsOnly_streamDecrypt {stream : V.stream.Instance} {input buffer : Bytes}
    {out offset : ℕ} :
    ThrowsOnly (streamDecrypt V stream input buffer out offset failure) (.illegalState failure) :=
  .bind (.orThrow _) fun _ => .bind (.access _) fun _ => .ok _

variable {block : V.block.Instance} {chain key out : Bytes} {c i o : ℕ}

theorem throwsOnly_blockEncryptChained :
    ThrowsOnly (blockEncryptChained V block chain key out i o failure) (.illegalState failure) :=
  .bind (.access _) fun _ => .bind (.orThrow _) fun _ => .access _

theorem throwsOnly_blockEncrypt :
    ThrowsOnly (blockEncrypt V block key out c i o failure) (.illegalState failure) :=
  .bind (.access _) fun _ => .bind (.access _) fun _ => .bind (.orThrow _) fun _ => .access _

theorem throwsOnly_blockDecrypt :
    ThrowsOnly (blockDecrypt V block key out c i o failure) (.illegalState failure) :=
  .bind (.access _) fun _ => .bind (.access _) fun _ => .bind (.orThrow _) fun _ => .access _

end VjBlockchain
