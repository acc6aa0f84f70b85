import AgentHive.Llm.Values

/-!
Secrets that are stored encrypted, and the storage errors that the services which
keep a copy of their rows in the process look out for.
-/

namespace AgentHive

/-- The two functions of `app.core.secrets`; a text that is no token of the
installation is not decrypted. -/
structure SecretLibrary where
  encryptSecret : String → String
  decryptSecret : String → Option String
  decrypt_encrypt : ∀ secret, decryptSecret (encryptSecret secret) = some secret
  encrypt_ne : ∀ secret, encryptSecret secret ≠ ""

inductive StorageFault
  | os (className message : String)
  | sqlAlchemy (className message : String)
deriving DecidableEq

def StorageFault.toExc : StorageFault → Exc
  | .os className message => .os className message
  | .sqlAlchemy className message => .sqlAlchemy className message

def plainSecrets : SecretLibrary where
  encryptSecret secret := String.ofList ('k' :: secret.toList)
  decryptSecret token :=
    match token.toList with
    | 'k' :: secret => some (String.ofList secret)
    | _ => none
  decrypt_encrypt secret := by simp
  encrypt_ne secret := by
    intro empty
    have long := congrArg String.toList empty
    simp at long

end AgentHive
