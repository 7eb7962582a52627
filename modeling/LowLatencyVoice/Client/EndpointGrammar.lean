import LowLatencyVoice.Client.Endpoint

open Text

namespace low_latency_voice.client

/-- The schemes that are taken off. -/
inductive Scheme where
  | ws
  | wss
  | http
  | https

def Scheme.text : Scheme → List Char
  | .ws => "ws://".toList
  | .wss => "wss://".toList
  | .http => "http://".toList
  | .https => "https://".toList

/-- No host, a name, or an address in brackets. -/
inductive IsHost : List Char → Prop where
  | empty : IsHost []
  | name {host : List Char} (hne : host ≠ []) (hchars : ∀ c ∈ host, c ≠ '/' ∧ c ≠ ':' ∧ c ≠ '[' ∧ c ≠ ']' ∧
      isWhitespace c = false) : IsHost host
  | bracketed {inner : List Char} (hne : inner ≠ []) (hchars : ∀ c ∈ inner, c ≠ '/' ∧ c ≠ '[' ∧ c ≠ ']') :
      IsHost ('[' :: inner ++ [']'])

/-- Digits and the number they denote, which an `int` holds. -/
structure PortText where
  digits : List Char
  value : Nat
  denotes : digitsValue 10 digits = some value
  small : value < 2 ^ 63

/-- A text of the grammar, by its parts. -/
structure EndpointText where
  left : List Char
  scheme : Option Scheme
  host : List Char
  port : Option PortText
  path : Option (List Char)
  right : List Char
  left_space : ∀ c ∈ left, isWhitespace c = true
  isHost : IsHost host
  right_space : ∀ c ∈ right, isWhitespace c = true

namespace EndpointText

variable (t : EndpointText)

def schemeText : List Char := (t.scheme.map Scheme.text).getD []

def portText : List Char := (t.port.map fun port => ':' :: port.digits).getD []

def pathText : List Char := (t.path.map fun path => '/' :: path).getD []

/-- The text. -/
def render : List Char := t.left ++ (t.schemeText ++ (t.host ++ t.portText) ++ t.pathText) ++ t.right

end EndpointText

section digits

theorem digitValue_isSome {c : Char} {d : Nat} (h : digitValue 10 c = some d) :
    0x30 ≤ c.toNat ∧ c.toNat ≤ 0x39 := by
  by_contra hnot
  have hlarge : ¬ (if 0x61 ≤ c.toNat ∧ c.toNat ≤ 0x66 then c.toNat - 0x61 + 10
      else if 0x41 ≤ c.toNat ∧ c.toNat ≤ 0x46 then c.toNat - 0x41 + 10 else 10) < 10 := by
    split
    · omega
    · split <;> omega
  unfold digitValue at h
  simp only [if_neg hnot, if_neg hlarge] at h
  cases h

theorem mem_of_digitsValue {digits : List Char} {value : Nat} (h : digitsValue 10 digits = some value) :
    ∀ c ∈ digits, 0x30 ≤ c.toNat ∧ c.toNat ≤ 0x39 := by
  have hfold : ∀ (digits : List Char) (n : Nat),
      digits.foldlM (fun n c => (digitValue 10 c).map fun d => 10 * n + d) n = some value →
        ∀ c ∈ digits, 0x30 ≤ c.toNat ∧ c.toNat ≤ 0x39 := by
    intro digits
    induction digits with
    | nil => simp
    | cons c digits ih =>
      intro n hn
      rw [List.foldlM_cons] at hn
      obtain ⟨n', hfirst, hrest⟩ := Option.bind_eq_some_iff.mp hn
      obtain ⟨d, hd, -⟩ := Option.map_eq_some_iff.mp hfirst
      exact List.forall_mem_cons.mpr ⟨digitValue_isSome hd, ih n' hrest⟩
  unfold digitsValue at h
  split at h
  · cases h
  · exact hfold digits 0 h

theorem isWhitespace_digit {c : Char} (h : 0x30 ≤ c.toNat ∧ c.toNat ≤ 0x39) : isWhitespace c = false := by
  unfold isWhitespace
  simp
  omega

theorem PortText.tryParse_digits (p : PortText) : tryParse p.digits = some (p.value : Int) := by
  have hdigit := mem_of_digitsValue p.denotes
  have htrim : trim isWhitespace p.digits = p.digits :=
    trim_eq_self ⟨fun c hc => isWhitespace_digit (hdigit c (List.mem_of_head? hc)),
      fun c hc => isWhitespace_digit (hdigit c (List.mem_of_getLast? hc))⟩
  have hunsigned : parseUnsigned false p.digits = some (p.value : Int) := by
    unfold parseUnsigned
    simp only
    split
    · rename_i x hex hhex
      have hx := hdigit x (by simp [hhex])
      have hnothex : ¬ (x = 'x' ∨ x = 'X') := by
        rintro (rfl | rfl)
        · exact absurd hx (by decide)
        · exact absurd hx (by decide)
      rw [if_neg hnothex, p.denotes]
      exact if_pos p.small
    · rw [p.denotes]
      exact if_pos p.small
  unfold tryParse
  rw [htrim]
  split
  · rename_i rest hminus
    exact absurd (hdigit '-' (by simp [hminus])) (by decide)
  · rename_i rest hplus
    exact absurd (hdigit '+' (by simp [hplus])) (by decide)
  · exact hunsigned

end digits

namespace IsHost

variable {host : List Char}

theorem not_mem_slash (h : IsHost host) : '/' ∉ host := by
  intro hmem
  cases h with
  | empty => cases hmem
  | name hne hchars => exact (hchars '/' hmem).1 rfl
  | @bracketed inner hne hchars =>
    obtain hmem | hmem := List.mem_cons.mp hmem
    · cases hmem
    · obtain hmem | hmem := List.mem_append.mp hmem
      · exact (hchars '/' hmem).1 rfl
      · simp at hmem

theorem trimmed (h : IsHost host) : Trimmed isWhitespace host := by
  cases h with
  | empty => exact trim_eq_self_iff.mp rfl
  | name hne hchars =>
    exact ⟨fun c hc => (hchars c (List.mem_of_head? hc)).2.2.2.2,
      fun c hc => (hchars c (List.mem_of_getLast? hc)).2.2.2.2⟩
  | @bracketed inner hne hchars =>
    refine ⟨fun c hc => ?_, fun c hc => ?_⟩
    · obtain rfl := Option.some.inj hc
      decide
    · have hlast : (('[' :: inner) ++ [']']).getLast? = some c := hc
      rw [List.getLast?_concat] at hlast
      obtain rfl := Option.some.inj hlast
      decide

/-- The port of a host in the grammar is found. -/
theorem splitPort_of_port (h : IsHost host) (p : PortText) :
    splitPort dartLibrary (host ++ ':' :: p.digits) = some (host, (p.value : Int)) := by
  have hdigit := mem_of_digitsValue p.denotes
  have hcolon : ':' ∉ p.digits := fun hmem => absurd (hdigit ':' hmem) (by decide)
  have hbracket : ']' ∉ p.digits := fun hmem => absurd (hdigit ']' hmem) (by decide)
  refine (splitPort_eq_some_iff dartLibrary).mpr ⟨p.digits, p.tryParse_digits, ?_⟩
  cases h with
  | empty => exact .inl ⟨rfl, hcolon, by simpa using hbracket⟩
  | name hne hchars =>
    refine .inl ⟨rfl, hcolon, fun hmem => ?_⟩
    obtain hmem | hmem := List.mem_append.mp hmem
    · exact (hchars ']' hmem).2.2.2.1 rfl
    · simp [hbracket] at hmem
  | @bracketed inner hne hchars =>
    refine .inr ⟨rfl, rfl, ⟨'[' :: inner, rfl⟩, not_infix_of_not_mem fun hmem => ?_⟩
    obtain hmem | hmem := List.mem_cons.mp hmem
    · cases hmem
    · exact (hchars ']' hmem).2.2 rfl

/-- Without one, none is found. -/
theorem splitPort_of_none (h : IsHost host) : splitPort dartLibrary host = none := by
  refine (splitPort_eq_none_iff dartLibrary).mpr fun host' portPart hport => ?_
  cases h with
  | empty =>
    obtain hplain | hbracket := hport
    · have hsplit := hplain.split
      simp at hsplit
    · have hsplit := hbracket.split
      simp at hsplit
  | name hne hchars =>
    have hcolon : ':' ∈ host := by
      obtain hplain | hbracket := hport
      · simp [hplain.split]
      · simp [hbracket.split]
    exact absurd rfl (hchars ':' hcolon).2.1
  | @bracketed inner hne hchars =>
    obtain hplain | hbracket := hport
    · exact absurd (by simp) hplain.plain
    · obtain ⟨inner', rfl⟩ := hbracket.closed
      have hinfix : [']', ':'] <:+: '[' :: inner ++ [']'] := ⟨inner', portPart, by simp [hbracket.split]⟩
      refine absurd hinfix (not_infix_of_not_mem fun hmem => ?_)
      obtain hmem | hmem := List.mem_cons.mp hmem
      · cases hmem
      · exact (hchars ']' hmem).2.2 rfl

end IsHost

namespace EndpointText

variable (t : EndpointText)

theorem portText_digit : t.portText = [] ∨ ∃ d rest, t.portText = ':' :: d :: rest ∧
    ∀ c ∈ d :: rest, 0x30 ≤ c.toNat ∧ c.toNat ≤ 0x39 := by
  unfold portText
  cases t.port with
  | none => exact .inl rfl
  | some p =>
    have hdigit := mem_of_digitsValue p.denotes
    have hdenotes := p.denotes
    cases hdigits : p.digits with
    | nil =>
      rw [hdigits] at hdenotes
      cases hdenotes
    | cons d rest =>
      rw [hdigits] at hdigit
      exact .inr ⟨d, rest, by simp [hdigits], hdigit⟩

/-- A path is cut off, whatever is in it. -/
theorem takeWhile_path {path : List Char} (hpath : path = [] ∨ ∃ rest, path = '/' :: rest) :
    (t.host ++ t.portText ++ path).takeWhile (· ≠ '/') = t.host ++ t.portText := by
  have hfront : ∀ c ∈ t.host ++ t.portText, decide (c ≠ '/') = true := by
    intro c hc
    have hne : c ≠ '/' := by
      rintro rfl
      obtain hhost | hport := List.mem_append.mp hc
      · exact t.isHost.not_mem_slash hhost
      · obtain hnone | ⟨d, rest, hport', hdigit⟩ := t.portText_digit
        · simp [hnone] at hport
        · rw [hport'] at hport
          obtain hcolon | hdigits := List.mem_cons.mp hport
          · cases hcolon
          · exact absurd (hdigit '/' hdigits) (by decide)
    simpa using hne
  rw [List.takeWhile_append_of_pos hfront]
  obtain rfl | ⟨rest, rfl⟩ := hpath <;> simp

/-- A host has no colon with a slash behind it, so it is no scheme. -/
theorem not_scheme {path : List Char} (hpath : path = [] ∨ ∃ rest, path = '/' :: rest) (scheme : Scheme)
    (back : List Char) : t.host ++ t.portText ++ path ≠ scheme.text ++ back := by
  intro heq
  -- what stands behind the first colon or slash
  let inName (c : Char) : Bool := c ≠ ':' ∧ c ≠ '/'
  have hscheme : (scheme.text ++ back).dropWhile inName = ':' :: '/' :: '/' :: back := by
    cases scheme <;> rfl
  rw [← heq, List.append_assoc] at hscheme
  have hself : (t.portText ++ path).dropWhile inName = t.portText ++ path := by
    refine dropWhile_eq_self fun c hc => ?_
    obtain hnone | ⟨d, rest, hport, -⟩ := t.portText_digit
    · rw [hnone, List.nil_append] at hc
      obtain rfl | ⟨rest, rfl⟩ := hpath
      · cases hc
      · obtain rfl := Option.some.inj hc
        rfl
    · rw [hport] at hc
      obtain rfl := Option.some.inj hc
      rfl
  have htail : t.portText ++ path ≠ ':' :: '/' :: '/' :: back := by
    intro htail
    obtain hnone | ⟨d, rest, hport, hdigit⟩ := t.portText_digit
    · rw [hnone, List.nil_append] at htail
      obtain rfl | ⟨rest, rfl⟩ := hpath <;> cases htail
    · rw [hport] at htail
      obtain rfl : d = '/' := (List.cons.inj (List.cons.inj htail).2).1
      exact absurd (hdigit '/' List.mem_cons_self) (by decide)
  have hname : ¬ ∀ c ∈ t.host, inName c = true := by
    intro hhost
    rw [List.dropWhile_append_of_pos hhost, hself] at hscheme
    exact htail hscheme
  have hisHost := t.isHost
  generalize t.host = host at hisHost hname heq
  cases hisHost with
  | empty => exact hname (by simp)
  | name hne hchars =>
    refine hname fun c hc => ?_
    have hc := hchars c hc
    simp [inName, hc.1, hc.2.1]
  | bracketed hne hchars =>
    have hhead := congrArg List.head? heq
    have hfirst : scheme.text.head? = some 'w' ∨ scheme.text.head? = some 'h' := by
      cases scheme <;> decide
    rw [List.head?_append (l := scheme.text)] at hhead
    obtain hw | hh := hfirst
    · rw [hw] at hhead
      simp at hhead
    · rw [hh] at hhead
      simp at hhead

/-- A scheme that is there is taken off, and nothing else looks like one. -/
theorem stripScheme_text {path : List Char} (hpath : path = [] ∨ ∃ rest, path = '/' :: rest) :
    stripScheme (t.schemeText ++ (t.host ++ t.portText) ++ path) = t.host ++ t.portText ++ path := by
  rw [List.append_assoc]
  unfold schemeText
  cases t.scheme with
  | some scheme => cases scheme <;> rfl
  | none =>
    have hno : ∀ scheme : Scheme, scheme.text.isPrefixOf (t.host ++ t.portText ++ path) = false := by
      intro scheme
      rw [Bool.eq_false_iff, ne_eq, List.isPrefixOf_iff_prefix]
      rintro ⟨back, hback⟩
      exact t.not_scheme hpath scheme back hback.symm
    have hws := hno .ws
    have hwss := hno .wss
    have hhttp := hno .http
    have hhttps := hno .https
    unfold Scheme.text at hws hwss hhttp hhttps
    simp only [Option.map_none, Option.getD_none, List.nil_append, stripScheme, hws, hwss, hhttp, hhttps]
    rfl

theorem trimmed_front : Trimmed isWhitespace (t.schemeText ++ (t.host ++ t.portText)) := by
  refine Trimmed.append ?_ (Trimmed.append ?_ ?_)
  · unfold schemeText
    cases t.scheme with
    | none => exact trim_eq_self_iff.mp rfl
    | some scheme => cases scheme <;> exact trim_eq_self_iff.mp (by decide)
  · exact t.isHost.trimmed
  · obtain hnone | ⟨d, rest, hport, hdigit⟩ := t.portText_digit
    · rw [hnone]
      exact trim_eq_self_iff.mp rfl
    · rw [hport]
      refine ⟨fun c hc => ?_, fun c hc => ?_⟩
      · obtain rfl := Option.some.inj hc
        decide
      · rw [List.getLast?_cons_cons] at hc
        exact isWhitespace_digit (hdigit c (List.mem_of_getLast? hc))

/-- White space around the text goes, and with it perhaps the end of the path. -/
theorem trim_render : ∃ path, (path = [] ∨ ∃ rest, path = '/' :: rest) ∧
    trim isWhitespace t.render = t.schemeText ++ (t.host ++ t.portText) ++ path := by
  have hfront := t.trimmed_front
  unfold render pathText
  generalize t.schemeText ++ (t.host ++ t.portText) = front at hfront ⊢
  cases t.path with
  | none =>
    have htext : front ++ ((none : Option (List Char)).map fun path => '/' :: path).getD [] = front := by simp
    rw [htext, trim_append t.left_space t.right_space hfront.head, rdropWhile_eq_self hfront.last]
    exact ⟨[], .inl rfl, by simp⟩
  | some path =>
    refine ⟨'/' :: path.rdropWhile isWhitespace, .inr ⟨_, rfl⟩, ?_⟩
    rw [← rdropWhile_append_cons (by decide), ← trim_append t.left_space t.right_space]
    · rfl
    · intro c hc
      rw [List.head?_append, Option.or_eq_some_iff] at hc
      obtain hc | ⟨-, hc⟩ := hc
      · exact hfront.head c hc
      · obtain rfl := Option.some.inj hc
        decide

theorem authority_render : authority dartLibrary t.render = t.host ++ t.portText := by
  obtain ⟨path, hpath, htrim⟩ := t.trim_render
  change (stripScheme (trim isWhitespace t.render)).takeWhile (· ≠ '/') = t.host ++ t.portText
  rw [htrim, t.stripScheme_text hpath, t.takeWhile_path hpath]

/-- The port the text gives, or the default. -/
def portOr (defaultPort : Int) : Int := (t.port.map fun port => (port.value : Int)).getD defaultPort

/-- **`parseEndpoint` reads what a text of the grammar says.** -/
theorem parseEndpoint_render (defaultPort : Int) :
    parseEndpoint dartLibrary t.render defaultPort = ⟨orDefault t.host, t.portOr defaultPort⟩ := by
  rw [parseEndpoint_eq, t.authority_render]
  unfold portText portOr
  cases t.port with
  | none =>
    have hhost : t.host ++ ((none : Option PortText).map fun port => ':' :: port.digits).getD [] = t.host := by
      simp
    rw [hhost, t.isHost.splitPort_of_none]
    rfl
  | some p =>
    have htext : t.host ++ ((some p).map fun port => ':' :: port.digits).getD [] =
        t.host ++ ':' :: p.digits := rfl
    rw [htext, t.isHost.splitPort_of_port p]
    rfl

end EndpointText

end low_latency_voice.client
