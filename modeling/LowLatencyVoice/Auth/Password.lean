import Mathlib.Algebra.Group.Nat.Defs
import LowLatencyVoice.Lib.Base64
import LowLatencyVoice.Lib.GoBytes

namespace low_latency_voice.auth

/-- `argon2.IDKey`, which is not part of the repository. Its result has the length asked for. -/
structure Argon2 where
  idKey : (password salt : GoBytes) → (time memory : UInt32) → (threads : UInt8) → (keyLen : UInt32) →
    GoBytes
  length_idKey : ∀ password salt time memory threads keyLen,
    (idKey password salt time memory threads keyLen).length = keyLen.toNat

/-- `argon2.Version`. -/
def argon2Version : Int := 0x13

/-- `Argon2Params`. -/
structure Argon2Params where
  memory : UInt32
  iterations : UInt32
  parallelism : UInt8
  saltLength : UInt32
  keyLength : UInt32

/-- `DefaultArgon2Params`. -/
def defaultArgon2Params : Argon2Params where
  memory := 64 * 1024
  iterations := 3
  parallelism := 2
  saltLength := 16
  keyLength := 32

inductive HashError where
  | invalidHash
  | incompatibleVersion
  | malformed
  deriving DecidableEq, Repr

/-- The bytes of a Go string. -/
def bytesOf (s : String) : GoBytes := s.toUTF8.data.toList

/-- `HashPassword`. The salt is what the random generator gives, if it does not fail. -/
def hashPassword (argon2 : Argon2) (password : String) (salt : Option GoBytes) : Option String :=
  salt.map fun salt =>
    let p := defaultArgon2Params
    let hash := argon2.idKey (bytesOf password) salt p.iterations p.memory p.parallelism p.keyLength
    "$argon2id$v=" ++ toString argon2Version ++ "$m=" ++ toString p.memory ++ ",t=" ++ toString p.iterations ++
      ",p=" ++ toString p.parallelism ++ "$" ++ String.ofList (Base64.encodeToString salt) ++ "$" ++
      String.ofList (Base64.encodeToString hash)

/-! The verbs of `fmt.Sscanf` that `VerifyPassword` uses. -/

/-- A literal of the format. -/
def scanLiteral (literal s : List Char) : Option (List Char) :=
  if literal.isPrefixOf s then some (s.drop literal.length) else none

/-- The decimal digits at the front. -/
def scanDigits (s : List Char) : Option (Nat × List Char) :=
  let front := s.takeWhile Char.isDigit
  if front = [] then none
  else some (front.foldl (fun n c => 10 * n + (c.toNat - '0'.toNat)) 0, s.dropWhile Char.isDigit)

/-- `%d` into an unsigned number of so many bits. Blanks before it are skipped. -/
def scanUint (bits : Nat) (s : List Char) : Option (Nat × List Char) :=
  (scanDigits (s.dropWhile fun c => c == ' ' || c == '\t')).bind fun (n, rest) =>
    if n < 2 ^ bits then some (n, rest) else none

/-- `%d` into an `int`. -/
def scanInt (s : List Char) : Option (Int × List Char) :=
  let s := s.dropWhile fun c => c == ' ' || c == '\t'
  match s with
  | '-' :: s => (scanDigits s).bind fun (n, rest) => if n ≤ 2 ^ 63 then some (-n, rest) else none
  | '+' :: s => (scanDigits s).bind fun (n, rest) => if n < 2 ^ 63 then some (n, rest) else none
  | s => (scanDigits s).bind fun (n, rest) => if n < 2 ^ 63 then some (n, rest) else none

/-- `Sscanf(s, "v=%d", &version)`. -/
def scanVersion (s : List Char) : Option Int := do
  let s ← scanLiteral ['v', '='] s
  let (version, _) ← scanInt s
  return version

/-- `Sscanf(s, "m=%d,t=%d,p=%d", ..)`. -/
def scanParams (s : List Char) : Option (UInt32 × UInt32 × UInt8) := do
  let s ← scanLiteral ['m', '='] s
  let (memory, s) ← scanUint 32 s
  let s ← scanLiteral [',', 't', '='] s
  let (iterations, s) ← scanUint 32 s
  let s ← scanLiteral [',', 'p', '='] s
  let (parallelism, _) ← scanUint 8 s
  return (UInt32.ofNat memory, UInt32.ofNat iterations, UInt8.ofNat parallelism)

/-- The prefixes of bcrypt hashes. -/
def bcryptPrefixes : List (List Char) := [['$', '2', 'a', '$'], ['$', '2', 'b', '$'], ['$', '2', 'y', '$']]

/-- `VerifyPassword`. The second field is not looked at. -/
def verifyPassword (argon2 : Argon2) (compareHashAndPassword : GoBytes → GoBytes → Bool)
    (password encodedHash : String) : Except HashError Bool :=
  if bcryptPrefixes.any fun start => start.isPrefixOf encodedHash.toList then
    .ok (compareHashAndPassword (bytesOf encodedHash) (bytesOf password))
  else
    match encodedHash.toList.splitOn '$' with
    | [_, _, version, params, salt, hash] =>
      match scanVersion version with
      | none => .error .malformed
      | some version =>
        if version ≠ argon2Version then .error .incompatibleVersion
        else
          match scanParams params, Base64.decodeString salt, Base64.decodeString hash with
          | some (memory, iterations, parallelism), some salt, some decodedHash =>
            let otherHash := argon2.idKey (bytesOf password) salt iterations memory parallelism
              (UInt32.ofNat decodedHash.length)
            .ok (decodedHash == otherHash)
          | _, _, _ => .error .malformed
    | _ => .error .invalidHash

/-- The text of a hash made by `HashPassword`, cut at its dollar signs. -/
theorem toList_hashPassword (argon2 : Argon2) (password : String) (salt : GoBytes) :
    ∃ encoded, hashPassword argon2 password (some salt) = some encoded ∧
      encoded.toList = ['$'].intercalate [[], "argon2id".toList, "v=19".toList, "m=65536,t=3,p=2".toList,
        Base64.encodeToString salt,
        Base64.encodeToString (argon2.idKey (bytesOf password) salt 3 65536 2 32)] := by
  have hversion : toString argon2Version = "19" := by decide +kernel
  have hmemory : toString defaultArgon2Params.memory = "65536" := by decide +kernel
  have hiterations : toString defaultArgon2Params.iterations = "3" := by decide +kernel
  have hparallelism : toString defaultArgon2Params.parallelism = "2" := by decide +kernel
  refine ⟨_, rfl, ?_⟩
  simp only [hversion, hmemory, hiterations, hparallelism, String.toList_append, String.toList_ofList]
  simp [List.intercalate, defaultArgon2Params]

/-- None of its fields has a dollar sign, so it is taken apart as it was put together. -/
theorem splitOn_hashPassword {argon2 : Argon2} {password encoded : String} {salt : GoBytes}
    (h : hashPassword argon2 password (some salt) = some encoded) :
    encoded.toList.splitOn '$' = [[], "argon2id".toList, "v=19".toList, "m=65536,t=3,p=2".toList,
      Base64.encodeToString salt,
      Base64.encodeToString (argon2.idKey (bytesOf password) salt 3 65536 2 32)] := by
  obtain ⟨encoded', h', htext⟩ := toList_hashPassword argon2 password salt
  rw [h] at h'
  cases h'
  have hbase : ∀ src, '$' ∉ Base64.encodeToString src := by
    intro src hmem
    have hnot : '$' ∉ Base64.alphabet := by decide +kernel
    exact hnot (Base64.mem_alphabet hmem)
  rw [htext]
  refine List.splitOn_intercalate '$' ?_ (by simp)
  intro field hfield
  simp only [List.mem_cons, List.not_mem_nil, or_false] at hfield
  rcases hfield with rfl | rfl | rfl | rfl | rfl | rfl
  · simp
  · decide +kernel
  · decide +kernel
  · decide +kernel
  · exact hbase salt
  · exact hbase _

/-- An encoded hash has no prefix of bcrypt, so it is never compared as one. -/
theorem not_bcrypt_hashPassword {argon2 : Argon2} {password encoded : String} {salt : GoBytes}
    (h : hashPassword argon2 password (some salt) = some encoded) :
    (bcryptPrefixes.any fun start => start.isPrefixOf encoded.toList) = false := by
  obtain ⟨encoded', h', htext⟩ := toList_hashPassword argon2 password salt
  rw [h] at h'
  cases h'
  rw [htext]
  simp [bcryptPrefixes, List.intercalate, List.isPrefixOf]

/-- The version, the parameters, the salt and the length of the key are read back as they were
printed, so that two keys made alike are compared. -/
theorem verifyPassword_hashPassword_eq {argon2 : Argon2} {password encoded : String} {salt : GoBytes}
    (h : hashPassword argon2 password (some salt) = some encoded)
    (compareHashAndPassword : GoBytes → GoBytes → Bool) (other : String) :
    verifyPassword argon2 compareHashAndPassword other encoded =
      .ok (argon2.idKey (bytesOf password) salt 3 65536 2 32 ==
        argon2.idKey (bytesOf other) salt 3 65536 2 32) := by
  have hversion : scanVersion "v=19".toList = some argon2Version := by decide +kernel
  have hparams : scanParams "m=65536,t=3,p=2".toList = some (65536, 3, 2) := by decide +kernel
  have hlength : UInt32.ofNat (argon2.idKey (bytesOf password) salt 3 65536 2 32).length = 32 := by
    rw [argon2.length_idKey]
    rfl
  unfold verifyPassword
  rw [not_bcrypt_hashPassword h, splitOn_hashPassword h]
  simp only [Bool.false_eq_true, if_false, hversion, hparams, Base64.decodeString_encodeToString, hlength,
    ne_eq, not_true_eq_false]

/-- A password verifies against its own hash. -/
theorem verifyPassword_hashPassword {argon2 : Argon2} {password encoded : String} {salt : Option GoBytes}
    (h : hashPassword argon2 password salt = some encoded)
    (compareHashAndPassword : GoBytes → GoBytes → Bool) :
    verifyPassword argon2 compareHashAndPassword password encoded = .ok true := by
  cases salt with
  | none => cases h
  | some salt => rw [verifyPassword_hashPassword_eq h, beq_self_eq_true]

/-- Under every salt a password is hashed, the hash is in the format that is taken apart and not in
bcrypt's, and exactly the passwords with the same key under that salt and the default parameters
verify against it. -/
theorem password_hash_roundtrip (argon2 : Argon2) (compareHashAndPassword : GoBytes → GoBytes → Bool)
    (password : String) (salt : GoBytes) :
    ∃ encoded, hashPassword argon2 password (some salt) = some encoded ∧
      verifyPassword argon2 compareHashAndPassword password encoded = .ok true ∧
      (∀ other, ∃ verified, verifyPassword argon2 compareHashAndPassword other encoded = .ok verified ∧
        (verified = true ↔
          argon2.idKey (bytesOf other) salt defaultArgon2Params.iterations defaultArgon2Params.memory
              defaultArgon2Params.parallelism defaultArgon2Params.keyLength =
            argon2.idKey (bytesOf password) salt defaultArgon2Params.iterations
              defaultArgon2Params.memory defaultArgon2Params.parallelism
              defaultArgon2Params.keyLength)) ∧
      (bcryptPrefixes.any fun start => start.isPrefixOf encoded.toList) = false ∧
      (encoded.toList.splitOn '$').length = 6 := by
  obtain ⟨encoded, hencoded, -⟩ := toList_hashPassword argon2 password salt
  refine ⟨encoded, hencoded, verifyPassword_hashPassword hencoded compareHashAndPassword, ?_,
    not_bcrypt_hashPassword hencoded, ?_⟩
  · intro other
    refine ⟨_, verifyPassword_hashPassword_eq hencoded compareHashAndPassword other, ?_⟩
    rw [beq_iff_eq]
    exact eq_comm
  · rw [splitOn_hashPassword hencoded]
    rfl

end low_latency_voice.auth
