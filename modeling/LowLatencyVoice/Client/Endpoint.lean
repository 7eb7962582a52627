import Mathlib.Algebra.Group.Int.Defs
import Mathlib.Algebra.Group.Nat.Defs
import Mathlib.Data.List.TakeDrop
import LowLatencyVoice.Lib.Trim
import LowLatencyVoice.Client.WebSocketService

open Text

namespace low_latency_voice.client

section dart

/-- The white space of `String.trim`: the `White_Space` of Unicode and the byte order
mark. -/
def isWhitespace (c : Char) : Bool :=
  (0x9 ≤ c.toNat && c.toNat ≤ 0xD) || (0x2000 ≤ c.toNat && c.toNat ≤ 0x200A) ||
    [0x20, 0x85, 0xA0, 0x1680, 0x2028, 0x2029, 0x202F, 0x205F, 0x3000, 0xFEFF].contains c.toNat

def digitValue (radix : Nat) (c : Char) : Option Nat :=
  let value :=
    if 0x30 ≤ c.toNat ∧ c.toNat ≤ 0x39 then c.toNat - 0x30
    else if 0x61 ≤ c.toNat ∧ c.toNat ≤ 0x66 then c.toNat - 0x61 + 10
    else if 0x41 ≤ c.toNat ∧ c.toNat ≤ 0x46 then c.toNat - 0x41 + 10
    else radix
  if value < radix then some value else none

/-- What digits denote. -/
def digitsValue (radix : Nat) (digits : List Char) : Option Nat :=
  if digits = [] then none
  else digits.foldlM (fun n c => (digitValue radix c).map fun d => radix * n + d) 0

/-- An integer literal behind its sign. A hexadecimal one may take all 64 bits. -/
def parseUnsigned (negative : Bool) (digits : List Char) : Option Int :=
  let signed (n : Nat) : Option Int :=
    if negative then (if n ≤ 2 ^ 63 then some (-n) else none) else if n < 2 ^ 63 then some n else none
  match digits with
  | '0' :: x :: hex =>
    if x = 'x' ∨ x = 'X' then
      (digitsValue 16 hex).bind fun n =>
        if !negative ∧ 2 ^ 63 ≤ n ∧ n < 2 ^ 64 then some (n - 2 ^ 64 : Int) else signed n
    else (digitsValue 10 digits).bind signed
  | _ => (digitsValue 10 digits).bind signed

/-- `int.tryParse`. -/
def tryParse (source : List Char) : Option Int :=
  match trim isWhitespace source with
  | '-' :: digits => parseUnsigned true digits
  | '+' :: digits => parseUnsigned false digits
  | digits => parseUnsigned false digits

/-- The library, as it is. -/
def dartLibrary : DartLibrary where
  trim := trim isWhitespace
  tryParse

example : tryParse " -0x1F".toList = some (-31) := by decide

end dart

section splits

theorem splitLastColon_append {host port : List Char} (h : ':' ∉ port) :
    splitLastColon (host ++ ':' :: port) = some (host, port) := by
  have hreverse : (host ++ ':' :: port).reverse = port.reverse ++ ':' :: host.reverse := by simp
  have hport : ∀ c ∈ port.reverse, decide (c ≠ ':') = true := by
    intro c hc
    have hne : c ≠ ':' := fun heq => h (heq ▸ List.mem_reverse.mp hc)
    simpa using hne
  rw [splitLastColon, hreverse, List.span_eq_takeWhile_dropWhile, List.takeWhile_append_of_pos hport,
    List.dropWhile_append_of_pos hport]
  simp

theorem splitLastColon_eq_none {text : List Char} (h : ':' ∉ text) : splitLastColon text = none := by
  have hall : ∀ c ∈ text.reverse, decide (c ≠ ':') = true := by
    intro c hc
    have hne : c ≠ ':' := fun heq => h (heq ▸ List.mem_reverse.mp hc)
    simpa using hne
  rw [splitLastColon, List.span_eq_takeWhile_dropWhile, List.dropWhile_eq_nil_iff.mpr hall]

theorem splitLastColon_eq_some_iff {text host port : List Char} :
    splitLastColon text = some (host, port) ↔ text = host ++ ':' :: port ∧ ':' ∉ port := by
  constructor
  · intro hsplit
    by_cases hcolon : ':' ∈ text
    · obtain ⟨back, front, hreverse, hback⟩ := List.eq_append_cons_of_mem (List.mem_reverse.mpr hcolon)
      have htext : text = front.reverse ++ ':' :: back.reverse := by
        rw [← List.reverse_reverse text, hreverse]
        simp
      rw [htext, splitLastColon_append (by simpa using hback)] at hsplit
      cases hsplit
      exact ⟨htext, by simpa using hback⟩
    · rw [splitLastColon_eq_none hcolon] at hsplit
      cases hsplit
  · rintro ⟨rfl, hport⟩
    exact splitLastColon_append hport

/-- A closing bracket with a colon behind it. -/
theorem infix_cons_iff {c : Char} {rest : List Char} :
    [']', ':'] <:+: c :: rest ↔ (c = ']' ∧ ∃ back, rest = ':' :: back) ∨ [']', ':'] <:+: rest := by
  rw [List.infix_cons_iff, List.cons_prefix_cons]
  refine or_congr_left (and_congr eq_comm ⟨?_, ?_⟩)
  · rintro ⟨back, rfl⟩
    exact ⟨back, rfl⟩
  · rintro ⟨back, rfl⟩
    exact ⟨back, rfl⟩

/-- The first bracket with a colon behind it is taken. -/
theorem splitBracketColon_eq_some_iff {text host port : List Char} :
    splitBracketColon text = some (host, port) ↔
      text = host ++ ':' :: port ∧ (∃ inner, host = inner ++ [']']) ∧ ¬ [']', ':'] <:+: host := by
  constructor
  · intro h
    fun_induction splitBracketColon text generalizing host with
    | case1 => cases h
    | case2 rest =>
      cases h
      exact ⟨rfl, ⟨[], rfl⟩, by decide⟩
    | case3 c rest hfirst ih =>
      obtain ⟨⟨front, back⟩, hrest, heq⟩ := Option.map_eq_some_iff.mp h
      obtain ⟨rfl, rfl⟩ := Prod.mk.inj heq
      obtain ⟨rfl, ⟨inner, rfl⟩, hnone⟩ := ih hrest
      refine ⟨rfl, ⟨c :: inner, rfl⟩, ?_⟩
      rw [infix_cons_iff, not_or]
      refine ⟨?_, hnone⟩
      rintro ⟨hc, r, hfront⟩
      have hsplit : inner ++ [']'] = ':' :: r := hfront
      exact hfirst (r ++ ':' :: back) hc (by simpa using congrArg (· ++ ':' :: back) hsplit)
  · rintro ⟨rfl, ⟨inner, rfl⟩, hfirst⟩
    induction inner with
    | nil => rfl
    | cons c inner ih =>
      rw [List.cons_append, infix_cons_iff, not_or] at hfirst
      rw [List.cons_append, List.cons_append, splitBracketColon, ih hfirst.2]
      · rfl
      · intro back hc hback
        refine hfirst.1 ⟨hc, ?_⟩
        cases inner with
        | nil => simp at hback
        | cons c' inner => exact ⟨inner ++ [']'], by simp_all⟩

theorem not_infix_of_not_mem {inner : List Char} (h : ']' ∉ inner) : ¬ [']', ':'] <:+: inner ++ [']'] := by
  induction inner with
  | nil => decide
  | cons c inner ih =>
    rw [List.cons_append, infix_cons_iff, not_or]
    refine ⟨fun hc => h (hc.1 ▸ List.mem_cons_self), ih fun hmem => h (List.mem_cons_of_mem c hmem)⟩

end splits

section passes

variable (dart : DartLibrary)

/-- What is left of a text without white space, scheme and path. -/
def authority (rawHost : List Char) : List Char := (stripScheme (dart.trim rawHost)).takeWhile (· ≠ '/')

/-- The port at the end of a text, and what stands before it. -/
def splitPort (text : List Char) : Option (List Char × Int) :=
  (if ']' ∈ text then if text.head? = some '[' then splitBracketColon text else none
    else splitLastColon text).bind fun (host, portPart) => (dart.tryParse portPart).map fun port => (host, port)

/-- An empty host stands for the default. -/
def orDefault (host : List Char) : List Char := if host = [] then defaultHost else host

theorem parseEndpoint_eq (rawHost : List Char) (defaultPort : Int) :
    parseEndpoint dart rawHost defaultPort =
      match splitPort dart (authority dart rawHost) with
      | some (host, port) => ⟨orDefault host, port⟩
      | none => ⟨orDefault (authority dart rawHost), defaultPort⟩ := by
  have hdef : parseEndpoint dart rawHost defaultPort =
      (let parsed : Endpoint :=
        match splitPort dart (authority dart rawHost) with
        | some (host, port) => ⟨host, port⟩
        | none => ⟨authority dart rawHost, defaultPort⟩
      if parsed.host = [] then { parsed with host := defaultHost } else parsed) := rfl
  rw [hdef]
  unfold orDefault
  cases splitPort dart (authority dart rawHost) with
  | none =>
    simp only
    split <;> rfl
  | some parsed =>
    simp only
    split <;> rfl

/-- A port without brackets before it: it stands behind the last colon. -/
structure PlainPort (text host portPart : List Char) : Prop where
  split : text = host ++ ':' :: portPart
  last : ':' ∉ portPart
  plain : ']' ∉ text

/-- A port behind brackets: it stands behind the first closing one with a colon. -/
structure BracketPort (text host portPart : List Char) : Prop where
  split : text = host ++ ':' :: portPart
  opened : text.head? = some '['
  closed : ∃ inner, host = inner ++ [']']
  first : ¬ [']', ':'] <:+: host

theorem splitPort_eq_some_iff {text host : List Char} {port : Int} :
    splitPort dart text = some (host, port) ↔
      ∃ portPart, dart.tryParse portPart = some port ∧
        (PlainPort text host portPart ∨ BracketPort text host portPart) := by
  have hbind : splitPort dart text = some (host, port) ↔
      ∃ portPart, dart.tryParse portPart = some port ∧
        (if ']' ∈ text then if text.head? = some '[' then splitBracketColon text else none
          else splitLastColon text) = some (host, portPart) := by
    unfold splitPort
    rw [Option.bind_eq_some_iff]
    constructor
    · rintro ⟨⟨host', portPart⟩, hsplit, hmap⟩
      obtain ⟨port', hport, heq⟩ := Option.map_eq_some_iff.mp hmap
      cases heq
      exact ⟨portPart, hport, hsplit⟩
    · rintro ⟨portPart, hport, hsplit⟩
      exact ⟨(host, portPart), hsplit, Option.map_eq_some_iff.mpr ⟨port, hport, rfl⟩⟩
  rw [hbind]
  refine exists_congr fun portPart => and_congr_right fun _ => ?_
  constructor
  · intro hsplit
    split at hsplit
    · split at hsplit
      · rename_i hopened
        obtain ⟨htext, hclosed, hfirst⟩ := splitBracketColon_eq_some_iff.mp hsplit
        exact .inr ⟨htext, hopened, hclosed, hfirst⟩
      · cases hsplit
    · rename_i hplain
      obtain ⟨htext, hlast⟩ := splitLastColon_eq_some_iff.mp hsplit
      exact .inl ⟨htext, hlast, hplain⟩
  · rintro (⟨htext, hlast, hplain⟩ | ⟨htext, hopened, ⟨inner, hinner⟩, hfirst⟩)
    · rw [if_neg hplain]
      exact splitLastColon_eq_some_iff.mpr ⟨htext, hlast⟩
    · have hbracket : ']' ∈ text := by simp [htext, hinner]
      rw [if_pos hbracket, if_pos hopened]
      exact splitBracketColon_eq_some_iff.mpr ⟨htext, ⟨inner, hinner⟩, hfirst⟩

theorem splitPort_eq_none_iff {text : List Char} :
    splitPort dart text = none ↔
      ∀ host portPart, PlainPort text host portPart ∨ BracketPort text host portPart →
        dart.tryParse portPart = none := by
  rw [Option.eq_none_iff_forall_ne_some]
  constructor
  · intro hnone host portPart hport
    by_contra hparses
    obtain ⟨port, hsome⟩ := Option.ne_none_iff_exists'.mp hparses
    exact hnone (host, port) ((splitPort_eq_some_iff dart).mpr ⟨portPart, hsome, hport⟩)
  · rintro hnone ⟨host, port⟩ hsome
    obtain ⟨portPart, hparses, hport⟩ := (splitPort_eq_some_iff dart).mp hsome
    rw [hnone host portPart hport] at hparses
    cases hparses

/-- A port takes its colon along. -/
theorem length_lt_of_splitPort {text host : List Char} {port : Int}
    (h : splitPort dart text = some (host, port)) :
    host.length < text.length := by
  have htext : ∃ portPart, text = host ++ ':' :: portPart := by
    obtain ⟨portPart, -, hplain | hbracket⟩ := (splitPort_eq_some_iff dart).mp h
    · exact ⟨portPart, hplain.split⟩
    · exact ⟨portPart, hbracket.split⟩
  obtain ⟨portPart, rfl⟩ := htext
  simp

/-- A text without a slash has neither scheme nor path. -/
theorem authority_of_not_mem {text : List Char} (h : '/' ∉ dart.trim text) :
    authority dart text = dart.trim text := by
  have hscheme : stripScheme (dart.trim text) = dart.trim text := by
    have hno : ∀ scheme : List Char, '/' ∈ scheme → scheme.isPrefixOf (dart.trim text) = false := by
      intro scheme hslash
      by_contra hprefix
      exact h ((List.isPrefixOf_iff_prefix.mp (by simpa using hprefix)).subset hslash)
    simp only [stripScheme, hno _ (by decide : '/' ∈ "ws://".toList), hno _ (by decide : '/' ∈ "wss://".toList),
      hno _ (by decide : '/' ∈ "http://".toList), hno _ (by decide : '/' ∈ "https://".toList)]
    rfl
  rw [authority, hscheme]
  exact List.takeWhile_eq_self_iff.mpr fun c hc => by
    have hne : c ≠ '/' := fun heq => h (heq ▸ hc)
    simpa using hne

theorem splitPort_defaultHost : splitPort dart defaultHost = none := by
  have hcolon : ':' ∉ defaultHost := by decide
  have hbracket : ']' ∉ defaultHost := by decide
  rw [splitPort, if_neg hbracket, splitLastColon_eq_none hcolon]
  rfl

/-- The texts `parseEndpoint` leaves as they are. -/
theorem parseEndpoint_eq_self_iff {host : List Char} (port : Int) (hslash : '/' ∉ host) (hne : host ≠ []) :
    parseEndpoint dartLibrary host port = ⟨host, port⟩ ↔
      Trimmed isWhitespace host ∧ splitPort dartLibrary host = none := by
  have hauthority : authority dartLibrary host = trim isWhitespace host :=
    authority_of_not_mem dartLibrary fun hmem => hslash (mem_of_mem_trim hmem)
  rw [parseEndpoint_eq, hauthority, ← trim_eq_self_iff]
  cases hsplit : splitPort dartLibrary (trim isWhitespace host) with
  | none =>
    simp only [Endpoint.mk.injEq, and_true]
    constructor
    · intro hhost
      have htrim : trim isWhitespace host = host := by
        unfold orDefault at hhost
        split at hhost
        · rename_i hempty
          rw [← hhost] at hempty
          exact absurd hempty (by decide)
        · exact hhost
      exact ⟨htrim, htrim ▸ hsplit⟩
    · rintro ⟨htrim, -⟩
      rw [htrim, orDefault, if_neg hne]
  | some parsed =>
    obtain ⟨front, port'⟩ := parsed
    refine iff_of_false ?_ fun h => ?_
    · intro hsame
      obtain ⟨hhost, -⟩ := Endpoint.mk.inj hsame
      unfold orDefault at hhost
      split at hhost
      · rw [← hhost, show trim isWhitespace defaultHost = defaultHost by decide,
          splitPort_defaultHost] at hsplit
        cases hsplit
      · have hshorter := length_lt_of_splitPort dartLibrary hsplit
        have hle : (trim isWhitespace host).length ≤ host.length := length_trim_le host
        rw [hhost] at hshorter
        omega
    · rw [h.1, h.2] at hsplit
      cases hsplit

/-- What stands before a plain port has no white space at its ends and no port of its own,
and a text without a port has no white space at its ends. An empty text is settled. -/
structure Settles (text : List Char) : Prop where
  plain : ∀ host portPart, PlainPort text host portPart → tryParse portPart ≠ none →
    host = [] ∨ Trimmed isWhitespace host ∧
      ∀ host' portPart', PlainPort host host' portPart' → tryParse portPart' = none
  whole : (∀ host portPart, PlainPort text host portPart ∨ BracketPort text host portPart →
    tryParse portPart = none) → text = [] ∨ Trimmed isWhitespace text

theorem parseEndpoint_defaultHost (port : Int) :
    parseEndpoint dartLibrary defaultHost port = ⟨defaultHost, port⟩ :=
  (parseEndpoint_eq_self_iff port (by decide) (by decide)).mpr
    ⟨trim_eq_self_iff.mp (by decide), splitPort_defaultHost dartLibrary⟩

/-- A host in brackets is left as it is. -/
theorem BracketPort.host_settles {text host portPart : List Char} (h : BracketPort text host portPart) :
    Trimmed isWhitespace host ∧ splitPort dartLibrary host = none := by
  obtain ⟨htext, hopened, ⟨inner, rfl⟩, hfirst⟩ := h
  refine ⟨⟨fun c hc => ?_, fun c hc => ?_⟩, (splitPort_eq_none_iff dartLibrary).mpr ?_⟩
  · have hhead : c = '[' := by
      rw [htext] at hopened
      cases inner with
      | nil => cases hopened
      | cons c' inner => exact (Option.some.inj hc).symm.trans (Option.some.inj hopened)
    subst c
    decide
  · have hlast : c = ']' := by simpa using hc.symm
    subst c
    decide
  · rintro host' portPart' (hplain | hbracket)
    · exact absurd (by simp) hplain.plain
    · obtain ⟨inner', rfl⟩ := hbracket.closed
      refine absurd ⟨inner', portPart', ?_⟩ hfirst
      rw [hbracket.split]
      simp

/-- Without a closing bracket in it, a host has plain ports only. -/
theorem PlainPort.host_splitPort_iff {text host portPart : List Char} (h : PlainPort text host portPart) :
    splitPort dartLibrary host = none ↔
      ∀ host' portPart', PlainPort host host' portPart' → tryParse portPart' = none := by
  rw [splitPort_eq_none_iff]
  refine ⟨fun hnone host' portPart' hport => hnone host' portPart' (.inl hport), ?_⟩
  rintro hnone host' portPart' (hplain | hbracket)
  · exact hnone host' portPart' hplain
  · obtain ⟨inner', rfl⟩ := hbracket.closed
    exact absurd (by simp [h.split, hbracket.split]) h.plain

/-- A second pass leaves a host as it is when that is empty, or trimmed and without a port. -/
theorem parseEndpoint_orDefault_iff {host : List Char} (port : Int) (hslash : '/' ∉ host) :
    parseEndpoint dartLibrary (orDefault host) port = ⟨orDefault host, port⟩ ↔
      host = [] ∨ Trimmed isWhitespace host ∧ splitPort dartLibrary host = none := by
  by_cases hempty : host = []
  · rw [orDefault, if_pos hempty]
    exact iff_of_true (parseEndpoint_defaultHost port) (.inl hempty)
  · rw [orDefault, if_neg hempty, parseEndpoint_eq_self_iff port hslash hempty, or_iff_right hempty]

/-- A text without a port is the host. -/
theorem settles_whole_iff {text : List Char} (hsplit : splitPort dartLibrary text = none) :
    Settles text ↔ text = [] ∨ Trimmed isWhitespace text ∧ splitPort dartLibrary text = none := by
  have hnone := (splitPort_eq_none_iff dartLibrary).mp hsplit
  rw [and_iff_left hsplit]
  exact ⟨fun h => h.whole hnone, fun hwhole =>
    ⟨fun host portPart hport hparses => absurd (hnone host portPart (.inl hport)) hparses, fun _ => hwhole⟩⟩

/-- A text with a port is settled when the host before it is. -/
theorem settles_split_iff {text host : List Char} {port : Int}
    (hsplit : splitPort dartLibrary text = some (host, port)) :
    Settles text ↔ host = [] ∨ Trimmed isWhitespace host ∧ splitPort dartLibrary host = none := by
  obtain ⟨portPart, hparses, hport⟩ := (splitPort_eq_some_iff dartLibrary).mp hsplit
  have hsome : tryParse portPart ≠ none := Option.ne_none_iff_exists'.mpr ⟨port, hparses⟩
  have hwhole : ¬ ∀ host portPart, PlainPort text host portPart ∨ BracketPort text host portPart →
      tryParse portPart = none := fun hnone => hsome (hnone host portPart hport)
  have honly : ∀ host' portPart', PlainPort text host' portPart' → tryParse portPart' ≠ none →
      host' = host := by
    intro host' portPart' hplain hsome'
    obtain ⟨port', hport'⟩ := Option.ne_none_iff_exists'.mp hsome'
    cases hsplit.symm.trans ((splitPort_eq_some_iff dartLibrary).mpr ⟨portPart', hport', .inl hplain⟩)
    rfl
  obtain hplain | hbracket := hport
  · rw [hplain.host_splitPort_iff]
    refine ⟨fun h => h.plain host portPart hplain hsome, fun hsettled =>
      ⟨fun host' portPart' hplain' hsome' => ?_, fun hnone => absurd hnone hwhole⟩⟩
    obtain rfl := honly host' portPart' hplain' hsome'
    exact hsettled
  · refine iff_of_true ⟨fun host' portPart' hplain' _ => ?_, fun hnone => absurd hnone hwhole⟩
      (.inr hbracket.host_settles)
    obtain ⟨inner, hinner⟩ := hbracket.closed
    exact absurd (by simp [hbracket.split, hinner]) hplain'.plain

/-- **A second pass leaves an endpoint as it is exactly when the first has settled it.** -/
theorem parseEndpoint_idempotent_iff (rawHost : List Char) (defaultPort : Int) :
    parseEndpoint dartLibrary (parseEndpoint dartLibrary rawHost defaultPort).host
        (parseEndpoint dartLibrary rawHost defaultPort).port = parseEndpoint dartLibrary rawHost defaultPort ↔
      Settles (authority dartLibrary rawHost) := by
  have hslash : '/' ∉ authority dartLibrary rawHost := by
    intro hmem
    simpa using List.mem_takeWhile_imp hmem
  rw [parseEndpoint_eq dartLibrary rawHost]
  generalize authority dartLibrary rawHost = text at hslash
  cases hsplit : splitPort dartLibrary text with
  | none => exact (parseEndpoint_orDefault_iff defaultPort hslash).trans (settles_whole_iff hsplit).symm
  | some parsed =>
    obtain ⟨host, port⟩ := parsed
    have hhost : '/' ∉ host := by
      obtain ⟨portPart, -, hplain | hbracket⟩ := (splitPort_eq_some_iff dartLibrary).mp hsplit
      · exact fun hmem => hslash (by simp [hplain.split, hmem])
      · exact fun hmem => hslash (by simp [hbracket.split, hmem])
    exact (parseEndpoint_orDefault_iff port hhost).trans (settles_split_iff hsplit).symm

/-- A port given twice: the second pass takes the first one. -/
theorem parseEndpoint_not_idempotent :
    ¬ ∀ (rawHost : List Char) (defaultPort : Int),
      parseEndpoint dartLibrary (parseEndpoint dartLibrary rawHost defaultPort).host
        (parseEndpoint dartLibrary rawHost defaultPort).port = parseEndpoint dartLibrary rawHost defaultPort := by
  intro h
  exact absurd (h "voice.example.com:8085:9000".toList 8085) (by decide +kernel)

end passes

end low_latency_voice.client
