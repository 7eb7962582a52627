import LowLatencyVoice.Lib.CString

namespace low_latency_voice.client

/-- Microphones and speakers, which the engine handles alike. -/
inductive DeviceKind where
  | input
  | output
  deriving DecidableEq, Repr

namespace DeviceKind

def defaultId : DeviceKind → CString
  | input => .ofText "default_input"
  | output => .ofText "default_output"

def defaultName : DeviceKind → CString
  | input => .ofText "Default System Microphone"
  | output => .ofText "Default System Speakers"

/-- The text of an id before its number. -/
def idStem : DeviceKind → CString
  | input => .ofText "dev_in_"
  | output => .ofText "dev_out_"

/-- The ids of another backend, read but no longer given. -/
def winmmStem : DeviceKind → CString
  | input => .ofText "winmm_in_"
  | output => .ofText "winmm_out_"

end DeviceKind

/-- `ma_device_info`, of which `δ` is the `ma_device_id`. -/
structure MaDeviceInfo (δ : Type) where
  id : δ
  name : CString
  isDefault : Bool

/-- `AudioDeviceInfo`. -/
structure AudioDeviceInfo where
  id : CString
  name : CString
  isDefault : Bool

section enumeration

variable {δ : Type}

/-- `find_capture_device_id` and `find_playback_device_id`; `none` is the system's
default device. -/
def findDeviceId (kind : DeviceKind) (deviceId : CString) (infos : List (MaDeviceInfo δ)) : Option δ :=
  if deviceId = kind.defaultId ∨ deviceId = [] then none
  else
    let devIdx := (CString.scanAfter kind.idStem deviceId).orElse fun _ => CString.scanAfter kind.winmmStem deviceId
    match devIdx.bind fun devIdx => infos[devIdx.toNat]? with
    | some info => some info.id
    | none => (infos.find? fun info => info.name == deviceId).map (·.id)

/-- `voice_engine_get_input_devices` and `voice_engine_get_output_devices`. There are
no `infos` when the context or its enumeration fails. -/
def getDevices (kind : DeviceKind) (infos : Option (List (MaDeviceInfo δ))) (maxCount : Nat) : List AudioDeviceInfo :=
  if maxCount < 1 then []
  else
    ⟨kind.defaultId, kind.defaultName, true⟩ ::
      ((infos.getD []).zipIdx.take (maxCount - 1)).map fun (info, i) =>
        ⟨CString.fit 128 (kind.idStem ++ CString.decimal i), CString.fit 256 info.name, info.isDefault⟩

end enumeration

/-- `AudioDevice` of the client. -/
structure AudioDevice where
  id : String
  name : String
  isInput : Bool
  isDefault : Bool
  deriving DecidableEq, Repr

namespace AudioEngineService

variable {δ : Type}

/-- `_readFixedString`. A `char` is signed, and a negative one is no character. -/
def readFixedString (array : List UInt8) (maxLen : Nat) : Option String :=
  let bytes := (array.take maxLen).takeWhile (· ≠ 0)
  if bytes.all (· < 128) then some (String.ofList (bytes.map fun b => Char.ofNat b.toNat)) else none

/-- `getInputDevices` and `getOutputDevices`, with the native library. It throws when
a name cannot be read. -/
def getDevices (kind : DeviceKind) (infos : Option (List (MaDeviceInfo δ))) : Option (List AudioDevice) :=
  (client.getDevices kind infos 16).mapM fun dev => do
    let idStr ← readFixedString dev.id 128
    let nameStr ← readFixedString dev.name 256
    return ⟨idStr, nameStr, kind = .input, dev.isDefault⟩

/-- `deviceId.toNativeUtf8()`. -/
def toNativeUtf8 (s : String) : List UInt8 := s.toList.flatMap String.utf8EncodeChar

/-- What `setInputDevice` and `setOutputDevice` leave in the engine's buffer of 128 bytes. -/
def setDevice (deviceId : String) : CString := CString.strncpy 127 (toNativeUtf8 deviceId)

/-- A text of characters below 128 comes back from the engine as it went in. -/
theorem toNativeUtf8_readFixedString {s : CString} (hascii : ∀ c ∈ s, 0 < c ∧ c < 128) {maxLen : Nat}
    (hlength : s.length ≤ maxLen) :
    ∃ text, readFixedString s maxLen = some text ∧ toNativeUtf8 text = s := by
  have hwhole : (s.take maxLen).takeWhile (· ≠ 0) = s := by
    rw [List.take_of_length_le hlength]
    refine List.takeWhile_eq_self_iff.mpr fun c hc => ?_
    have hpos := (hascii c hc).1
    rw [decide_eq_true_eq]
    rintro rfl
    exact absurd hpos (by decide)
  refine ⟨String.ofList (s.map fun b => Char.ofNat b.toNat), ?_, ?_⟩
  · unfold readFixedString
    simp only [hwhole]
    rw [if_pos]
    rw [List.all_eq_true]
    exact fun c hc => decide_eq_true (hascii c hc).2
  · rw [toNativeUtf8, String.toList_ofList, List.flatMap_map]
    clear hwhole hlength
    induction s with
    | nil => rfl
    | cons c s ih =>
      have hall : ∀ n < 128, String.utf8EncodeChar (Char.ofNat n) = [UInt8.ofNat n] := by decide +kernel
      have hencode := hall c.toNat (UInt8.lt_iff_toNat_lt.mp (hascii c (by simp)).2)
      rw [UInt8.ofNat_toNat] at hencode
      rw [List.flatMap_cons, ih fun c' hc' => hascii c' (by simp [hc']), hencode]
      rfl

/-- The ids the engine lists. -/
theorem getDevices_id {kind : DeviceKind} {infos : Option (List (MaDeviceInfo δ))} {k : Nat} {dev : AudioDeviceInfo}
    (h : (client.getDevices kind infos 16)[k]? = some dev) :
    (k = 0 ∧ dev.id = kind.defaultId) ∨
      ∃ i info, k = i + 1 ∧ i < 15 ∧ (infos.getD [])[i]? = some info ∧ dev.id = kind.idStem ++ CString.decimal i := by
  unfold client.getDevices at h
  rw [if_neg (by decide)] at h
  cases k with
  | zero =>
    cases h
    exact .inl ⟨rfl, rfl⟩
  | succ i =>
    right
    rw [List.getElem?_cons_succ, List.getElem?_map, List.getElem?_take] at h
    split at h
    · rename_i hi
      rw [List.getElem?_zipIdx] at h
      cases hinfo : (infos.getD [])[i]? with
      | none => simp [hinfo] at h
      | some info =>
        rw [hinfo] at h
        cases h
        refine ⟨i, info, rfl, hi, hinfo, ?_⟩
        have hlength := CString.length_decimal_le (show i < 10 ^ 10 by omega)
        have hstem : kind.idStem.length ≤ 8 := by cases kind <;> decide +kernel
        simp only [CString.fit, Nat.zero_add]
        refine List.take_of_length_le ?_
        rw [List.length_append]
        omega
    · cases h

theorem ascii_id {kind : DeviceKind} {i : Nat} : ∀ c ∈ kind.idStem ++ CString.decimal i, 0 < c ∧ c < 128 := by
  have hstem : ∀ c ∈ kind.idStem, 0 < c ∧ c < 128 := by cases kind <;> decide +kernel
  intro c hc
  rcases List.mem_append.mp hc with hc | hc
  · exact hstem c hc
  · obtain ⟨hge, hle⟩ := CString.isDigit_iff.mp (CString.isDigit_of_mem_decimal hc)
    rw [UInt8.lt_iff_toNat_lt, UInt8.lt_iff_toNat_lt]
    exact ⟨Nat.lt_of_lt_of_le (by decide) hge, Nat.lt_of_le_of_lt hle (by decide)⟩

/-- The id of a listed device finds it. -/
theorem findDeviceId_id {kind : DeviceKind} {infos : List (MaDeviceInfo δ)} {i : Nat} {info : MaDeviceInfo δ}
    (h : infos[i]? = some info) (hi : i < 2 ^ 32) :
    findDeviceId kind (kind.idStem ++ CString.decimal i) infos = some info.id := by
  have hother : kind.idStem ++ CString.decimal i ≠ kind.defaultId := by
    intro heq
    have hfront := congrArg (List.take 4) heq
    rw [List.take_append_of_le_length (by cases kind <;> decide +kernel)] at hfront
    cases kind <;> exact absurd hfront (by decide +kernel)
  have hne : kind.idStem ++ CString.decimal i ≠ [] := by
    cases kind <;> simp [DeviceKind.idStem, CString.ofText]
  unfold findDeviceId
  rw [if_neg (not_or.mpr ⟨hother, hne⟩), CString.scanAfter_decimal _ hi]
  simp only [Option.orElse_some, Option.bind_some, UInt32.toNat_ofNat_of_lt' hi, h]

theorem getElem?_of_mapM {α β : Type} {f : α → Option β} {as : List α} {bs : List β} (h : as.mapM f = some bs)
    {k : Nat} {b : β} (hb : bs[k]? = some b) : ∃ a, as[k]? = some a ∧ f a = some b := by
  induction as generalizing bs k with
  | nil =>
    cases h
    cases hb
  | cons a as ih =>
    rw [List.mapM_cons] at h
    obtain ⟨b', hfirst, h⟩ := Option.bind_eq_some_iff.mp h
    obtain ⟨bs', hrest, h⟩ := Option.bind_eq_some_iff.mp h
    cases h
    cases k with
    | zero =>
      cases hb
      exact ⟨a, rfl, hfirst⟩
    | succ k => exact ih hrest hb

/-- A device that is chosen from the list is found again, as long as the same devices are there. -/
theorem findDeviceId_setDevice {kind : DeviceKind} {infos : Option (List (MaDeviceInfo δ))} {devs : List AudioDevice}
    (hlist : getDevices kind infos = some devs) {k : Nat} {dev : AudioDevice} (hdev : devs[k]? = some dev) :
    findDeviceId kind (setDevice dev.id) (infos.getD []) =
      if k = 0 then none else (infos.getD [])[k - 1]?.map MaDeviceInfo.id := by
  obtain ⟨listed, hlisted, hread⟩ := getElem?_of_mapM hlist hdev
  obtain ⟨idStr, hid, hread⟩ := Option.bind_eq_some_iff.mp hread
  obtain ⟨nameStr, -, hread⟩ := Option.bind_eq_some_iff.mp hread
  cases hread
  have hset : ∀ id : CString, listed.id = id → (∀ c ∈ id, 0 < c ∧ c < 128) → id.length ≤ 127 →
      setDevice idStr = id := by
    rintro id rfl hascii hlength
    obtain ⟨text, htext, hback⟩ := toNativeUtf8_readFixedString hascii (show listed.id.length ≤ 128 by omega)
    rw [htext] at hid
    cases hid
    rw [setDevice, hback]
    refine CString.strncpy_eq_self (fun c hc => ?_) hlength
    rintro rfl
    exact absurd (hascii 0 hc).1 (by decide)
  obtain ⟨rfl, hdefault⟩ | ⟨i, info, rfl, hi, hinfo, hown⟩ := getDevices_id hlisted
  · rw [hset _ hdefault (by cases kind <;> decide +kernel) (by cases kind <;> decide +kernel), if_pos rfl, findDeviceId,
      if_pos (.inl rfl)]
  · have hlength := CString.length_decimal_le (show i < 10 ^ 10 by omega)
    have hstem : kind.idStem.length ≤ 8 := by cases kind <;> decide +kernel
    rw [hset _ hown ascii_id (by rw [List.length_append]; omega), findDeviceId_id hinfo (by omega), if_neg (by simp)]
    simp [hinfo]

end AudioEngineService

end low_latency_voice.client
