import DefinitionServer.Proofs.Ipv6
import DefinitionServer.Proofs.UrlPath

/-!
# Hosts and ports read back

A host is kept as the reader of URLs leaves it: percent-encoded, or an address in its short form
between brackets. Such a host with a port behind it is read as the same host and port.

## Main definitions

* `Url.StandsInHost`: a character stands for itself in a host.
* `Url.Host`: a host as the reader leaves it.
-/
namespace DefinitionServer.Url

variable {c : Char} {t host written rest inner scheme : Text} {groups : List Nat} {base port : Nat}

/-! ## The characters of hosts -/

/-- The character stands for itself in a host. -/
def StandsInHost (c : Char) : Prop := isControl c = false ∧ isForbidden c = false

theorem StandsInHost.ne {x : Char} (h : StandsInHost c) (hx : isForbidden x = true) : c ≠ x := by
  rintro rfl
  simp [h.2] at hx

/-- The reader does not pass the character over, nor does the character end an authority. -/
theorem StandsInHost.seen (h : StandsInHost c) :
    0x20 < c.toNat ∧ Kind.other.endsAuthority c = false ∧ c ≠ '@' := by
  have hspace : c.toNat ≠ ' '.toNat := fun heq => h.ne (by decide) (Char.toNat_inj.1 heq)
  have hfirst : ' '.toNat = 0x20 := rfl
  have hcontrol := h.1
  simp only [isControl, Bool.or_eq_false_iff, decide_eq_false_iff_not] at hcontrol
  refine ⟨by omega, ?_, h.ne (by decide)⟩
  have hslash : c ≠ '/' := h.ne (by decide)
  have hquery : c ≠ '?' := h.ne (by decide)
  have hfragment : c ≠ '#' := h.ne (by decide)
  simp [Kind.endsAuthority, hslash, hquery, hfragment]

theorem standsInHost_of_isBelow (h : Digit.isBelow base c = true) : StandsInHost c := by
  constructor
  · obtain ⟨hle, hle'⟩ := Digit.range_of_isBelow h
    have hlow : 48 ≤ c.toNat := hle
    have hhigh : c.toNat ≤ 102 := hle'
    simp only [isControl, Bool.or_eq_false_iff, decide_eq_false_iff_not]
    omega
  · have hvalue : ("\x00\t\n\r #/:<>?@[\\]^|".toList.all (Digit.value? · = none)) = true := by
      decide
    replace hvalue := List.all_eq_true.1 hvalue
    cases hforbidden : isForbidden c with
    | false => rfl
    | true =>
      have hnone := of_decide_eq_true (hvalue c (List.contains_iff_mem.1 hforbidden))
      simp [Digit.isBelow, hnone] at h

/-! ## Hosts -/

/-- A host as the reader leaves it: of characters that stand for themselves, or an address in its
short form between brackets. -/
inductive Host : Text → Prop
  | name {host : Text} (hne : host ≠ []) (h : ∀ c ∈ host, StandsInHost c) : Host host
  | address {groups : List Nat} (h : Address.IsAddress groups) :
      Host ('[' :: (Address.showIpv6 groups ++ [']']))

theorem Host.ne_nil (h : Host host) : host ≠ [] := by
  cases h with
  | name hne _ => exact hne
  | address _ => exact List.cons_ne_nil _ _

/-- What is read of a host is a host. -/
theorem host_of_opaqueHost (h : opaqueHost written = .ok host) (hne : host ≠ []) : Host host := by
  rw [opaqueHost] at h
  split at h
  · rw [bracketed] at h
    split at h
    · simp at h
    · split at h <;> rename_i hread
      · obtain rfl := Except.ok.inj h
        exact .address (Address.isAddress_of_ipv6? hread)
      · simp at h
  · split at h <;> rename_i hany
    · simp at h
    · obtain rfl := Except.ok.inj h
      refine .name hne fun c hc => ?_
      rcases mem_encodeIn hc with ⟨hmem, hset⟩ | ⟨hplain, hforbidden⟩
      · exact ⟨hset, by simpa using fun hf => hany (List.any_eq_true.2 ⟨c, hmem, hf⟩)⟩
      · exact ⟨isControl_of_isPathEncoded hplain, hforbidden⟩

/-- A host is read as itself. -/
theorem Host.opaqueHost_eq (h : Host host) : opaqueHost host = .ok host := by
  cases h with
  | name _ h =>
    have hhead : host.head? ≠ some '[' := fun hhead =>
      absurd (h '[' (List.mem_of_mem_head? hhead)).2 (by decide)
    have hany : ¬host.any isForbidden = true := by
      rw [List.any_eq_true]
      rintro ⟨c, hc, hf⟩
      simp [(h c hc).2] at hf
    rw [opaqueHost, if_neg hhead, if_neg hany, encodeIn_eq_self fun c hc => (h c hc).1]
  | address h =>
    rw [opaqueHost, if_pos List.head?_cons, bracketed, List.tail_cons, List.dropLast_concat,
      Address.ipv6?_showIpv6 h, ← List.cons_append, List.getLast?_concat]
    rfl

/-- The characters of a host are seen, and none ends the authority. -/
theorem Host.mem (h : Host host) (hc : c ∈ host) :
    0x20 < c.toNat ∧ Kind.other.endsAuthority c = false ∧ c ≠ '@' := by
  cases h with
  | name _ h => exact (h c hc).seen
  | address _ =>
    simp only [List.mem_cons, List.mem_append, List.not_mem_nil, or_false] at hc
    rcases hc with rfl | hc | rfl
    · decide
    · rcases Address.mem_showIpv6 hc with rfl | hdigit
      · decide
      · exact (standsInHost_of_isBelow hdigit).seen
    · decide

/-- A stretch without brackets belongs to the host, and so do its colons when it is between
brackets. -/
theorem spanHost_append {inBrackets : Bool}
    (h : ∀ c ∈ inner, StandsInHost c ∨ (c = ':' ∧ inBrackets = true)) (rest : Text) :
    spanHost .other inBrackets (inner ++ rest) =
      (inner ++ (spanHost .other inBrackets rest).1, (spanHost .other inBrackets rest).2) := by
  induction inner with
  | nil => rfl
  | cons c inner ih =>
    obtain ⟨hc, hinner⟩ := List.forall_mem_cons.1 h
    have hstep : (Kind.other.endsAuthority c || (c = ':' && !inBrackets)) = false ∧
        (decide (c = '[') || (inBrackets && decide (c ≠ ']'))) = inBrackets := by
      rcases hc with hc | ⟨rfl, rfl⟩
      · have hcolon : c ≠ ':' := hc.ne (by decide)
        have hopen : c ≠ '[' := hc.ne (by decide)
        have hclose : c ≠ ']' := hc.ne (by decide)
        simp [hc.seen.2.1, hcolon, hopen, hclose]
      · decide
    rw [List.cons_append, spanHost, if_neg (by simp [hstep.1]), hstep.2, ih hinner]
    rfl

/-- The host ends where the port begins. -/
theorem Host.spanHost_eq (h : Host host) (rest : Text) :
    spanHost .other false (host ++ ':' :: rest) = (host, ':' :: rest) := by
  cases h with
  | name hne h =>
    have hcolon : spanHost .other false (':' :: rest) = ([], ':' :: rest) := rfl
    rw [spanHost_append (fun c hc => .inl (h c hc)), hcolon, List.append_nil]
  | @address groups _ =>
    have hopen (t : Text) : spanHost .other false ('[' :: t) =
        ('[' :: (spanHost .other true t).1, (spanHost .other true t).2) := rfl
    have hclose : spanHost .other true (']' :: ':' :: rest) = ([']'], ':' :: rest) := rfl
    have hinner : ∀ c ∈ Address.showIpv6 groups, StandsInHost c ∨ (c = ':' ∧ true = true) :=
      fun c hc => (Address.mem_showIpv6 hc).elim (fun h => .inr ⟨h, rfl⟩)
        fun h => .inl (standsInHost_of_isBelow h)
    rw [List.cons_append, List.append_assoc, List.singleton_append, hopen,
      spanHost_append hinner, hclose]

theorem span_eq_self {p : Char → Bool} (h : ∀ c ∈ t, p c = true) : t.span p = (t, []) := by
  rw [List.span_eq_takeWhile_dropWhile, List.takeWhile_eq_self_iff.2 h,
    List.dropWhile_eq_nil_iff.2 h]

/-- Without an at sign there is no user. -/
theorem afterUser_eq (h : ∀ c ∈ t, Kind.other.endsAuthority c = false ∧ c ≠ '@') :
    afterUser .other t = .ok (false, t) := by
  have hspan : t.span (fun c => !Kind.other.endsAuthority c) = (t, []) :=
    span_eq_self fun c hc => by simp [(h c hc).1]
  have hhost : (t.reverse.takeWhile (· ≠ '@')).reverse = t := by
    rw [List.takeWhile_eq_self_iff.2 fun c hc => by simp [(h c (List.mem_reverse.1 hc)).2],
      List.reverse_reverse]
  rw [afterUser, hspan]
  exact if_pos (congrArg List.length hhost)

/-! ## Ports -/

theorem readPort_ofNat (h : port ≤ 65535) :
    readPort (':' :: Text.ofNat port) = .ok (some port, []) := by
  have hdigit : ∀ c ∈ Text.ofNat port, c.isDigit = true := fun c hc =>
    Nat.isDigit_of_mem_toDigits (by decide) (by decide) hc
  have hnumber : Digit.number 10 (Text.ofNat port) = port :=
    Digit.number_toDigits (by decide) (by decide) port
  have hne : Text.ofNat port ≠ [] := Nat.toDigits_ne_nil
  rw [readPort, span_eq_self hdigit]
  dsimp only
  rw [hnumber, if_neg (by omega), readPort.found, if_neg hne, hnumber]
  rfl

theorem le_of_readPort (h : readPort t = .ok (some port, rest)) : port ≤ 65535 := by
  unfold readPort at h
  split at h
  case h_1 u =>
    dsimp only at h
    split at h <;> rename_i hle
    · simp at h
    · have hfound : readPort.found (u.span Char.isDigit).1 = some port := by
        split at h
        · split at h
          · exact (Prod.mk.inj (Except.ok.inj h)).1
          · simp at h
        · exact (Prod.mk.inj (Except.ok.inj h)).1
      rw [readPort.found, Option.ite_none_left_eq_some] at hfound
      obtain ⟨-, hport⟩ := hfound
      rw [← Option.some.inj hport]
      exact Nat.not_lt.1 hle
  case h_2 => simp at h

/-! ## Authorities -/

theorem parseAuthority_port (h : Host host) (hport : port ≤ 65535) :
    parseAuthority .other scheme (host ++ ':' :: Text.ofNat port) =
      .ok ⟨scheme, some host, some port, []⟩ := by
  have huser : afterUser .other (host ++ ':' :: Text.ofNat port) =
      .ok (false, host ++ ':' :: Text.ofNat port) := by
    refine afterUser_eq fun c hc => ?_
    rcases List.mem_append.1 hc with hc | hc
    · exact (h.mem hc).2
    · rcases List.mem_cons.1 hc with rfl | hc
      · decide
      · have hdigit := Digit.isBelow_of_mem_toDigits (by decide) (by decide) hc
        exact (standsInHost_of_isBelow hdigit).seen.2
  simp only [parseAuthority, huser, bind, Except.bind, h.spanHost_eq, h.opaqueHost_eq,
    readPort_ofNat hport, h.ne_nil]
  rfl

theorem parseAuthority_slash (scheme path : Text) :
    parseAuthority .other scheme ('/' :: path) =
      .ok ⟨scheme, none, none, pathAfterAuthority ('/' :: path)⟩ := by
  have huser : afterUser .other ('/' :: path) = .ok (false, '/' :: path) := rfl
  simp only [parseAuthority, huser, bind, Except.bind]
  rfl

theorem scheme_of_parseAuthority {k : Kind} {url : Url}
    (h : parseAuthority k scheme t = .ok url) : url.scheme = scheme := by
  simp only [parseAuthority, bind, Except.bind] at h
  repeat' split at h
  all_goals first | contradiction | exact (Except.ok.inj h) ▸ rfl

/-- What is found in an authority and behind it. -/
theorem of_parseAuthority {url : Url} (h : parseAuthority .other scheme t = .ok url) :
    (∀ host ∈ url.host, Host host) ∧ (∀ port ∈ url.port, port ≤ 65535) ∧
      ∃ rest, url.path = pathAfterAuthority rest := by
  simp only [parseAuthority, bind, Except.bind] at h
  split at h
  · simp at h
  split at h
  · simp at h
  rw [if_pos trivial] at h
  split at h <;> rename_i hhost
  · simp at h
  split at h
  · simp at h
  split at h <;> rename_i read hport
  · simp at h
  split at h
  · simp at h
  obtain rfl := Except.ok.inj h
  refine ⟨fun host hmem => ?_, fun port hmem => ?_, _, rfl⟩
  · rw [Option.mem_def, Option.ite_none_left_eq_some] at hmem
    obtain ⟨hne, hsome⟩ := hmem
    obtain rfl := Option.some.inj hsome
    exact host_of_opaqueHost hhost hne
  · obtain ⟨found, after⟩ := read
    obtain rfl : found = some port := hmem
    exact le_of_readPort hport

end DefinitionServer.Url
