import DefinitionServer.Endpoint.Data
import DefinitionServer.Proofs.Authority

/-!
# Endpoints read back

An endpoint is shown as a URL into which its path or its host is written as it is. The URL is read
as the endpoint again when they are such as the reader of URLs leaves them. A TCP endpoint that was
read is always read back. A Unix endpoint that was read is read back when its path begins with a
slash: without one the path began right behind the scheme, and it is shown where a host stands.

## Main definitions

* `Endpoint.IsAbsolute`: an endpoint has no path without a slash before it.
* `Endpoint.StandsInUrl`: the parts of an endpoint stand in a URL as they are.
-/
namespace DefinitionServer

namespace Url

variable {t head rest scheme : Text} {url : Url}

/-! ## What is passed over around a URL -/

/-- What is dropped is dropped before what is kept. -/
theorem dropWhile_append_of_forall_not {p : Char → Bool} (h : ∀ c ∈ rest, p c = false) (t : Text) :
    (t ++ rest).dropWhile p = t.dropWhile p ++ rest := by
  induction t with
  | nil =>
    cases rest with
    | nil => rfl
    | cons c rest => exact List.dropWhile_cons_of_neg (by simp [h c List.mem_cons_self])
  | cons c t ih =>
    rw [List.cons_append, List.dropWhile_cons, List.dropWhile_cons, ih]
    split <;> rfl

/-- What is seen at the beginning stays, with some of what follows it. -/
theorem exists_cleaned_append (hne : head ≠ []) (h : ∀ c ∈ head, 0x20 < c.toNat) (rest : Text) :
    ∃ rest', rest'.Sublist rest ∧ cleaned (head ++ rest) = head ++ rest' := by
  have houter : ∀ c ∈ head, decide (c.toNat ≤ 0x20) = false := fun c hc => by simp [h c hc]
  have hkeep : ∀ c ∈ head, (c ≠ '\t' && c ≠ '\n' && c ≠ '\r') = true := fun c hc => by
    have hne : ∀ x : Char, x.toNat ≤ 0x20 → c ≠ x := by
      rintro x hx rfl
      exact absurd (h c hc) (by omega)
    simp [hne '\t' (by decide), hne '\n' (by decide), hne '\r' (by decide)]
  have hstart : (head ++ rest).dropWhile (fun c => decide (c.toNat ≤ 0x20)) = head ++ rest := by
    obtain ⟨c, cs, rfl⟩ := List.exists_cons_of_ne_nil hne
    exact List.dropWhile_cons_of_neg (by simp [houter c List.mem_cons_self])
  refine ⟨((rest.reverse.dropWhile fun c => decide (c.toNat ≤ 0x20)).reverse).filter fun c =>
    c ≠ '\t' && c ≠ '\n' && c ≠ '\r', ?_, ?_⟩
  · refine List.filter_sublist.trans ?_
    rw [← List.reverse_sublist, List.reverse_reverse]
    exact List.dropWhile_sublist _
  · rw [cleaned, hstart, List.reverse_append,
      dropWhile_append_of_forall_not fun c hc => houter c (List.mem_reverse.1 hc),
      List.reverse_append, List.reverse_reverse, List.filter_append, List.filter_eq_self.2 hkeep]

theorem lt_toNat_of_all (h : t.all (0x20 < ·.toNat) = true) : ∀ c ∈ t, 0x20 < c.toNat := by
  simpa only [List.all_eq_true, decide_eq_true_eq] using h

theorem cleaned_eq_self (h : ∀ c ∈ t, 0x20 < c.toNat) : cleaned t = t := by
  by_cases hne : t = []
  · rw [hne]
    rfl
  · obtain ⟨rest', hrest, ht⟩ := exists_cleaned_append hne h []
    rw [List.sublist_nil.1 hrest, List.append_nil] at ht
    exact ht

/-! ## Two slashes -/

theorem splitScheme_unix (rest : Text) :
    splitScheme ("unix://".toList ++ rest) = some ("unix".toList, '/' :: '/' :: rest) := rfl

theorem splitScheme_tcp (rest : Text) :
    splitScheme ("tcp://".toList ++ rest) = some ("tcp".toList, '/' :: '/' :: rest) := rfl

theorem parse_of_slashes (h : splitScheme (cleaned t) = some (scheme, '/' :: '/' :: rest))
    (hkind : Kind.ofScheme scheme = .other) : parse t = parseAuthority .other scheme rest := by
  simp only [parse, h, hkind]

/-! ## What is read -/

theorem scheme_of_parseFile (h : parseFile scheme t = .ok url) : url.scheme = scheme := by
  unfold parseFile at h
  dsimp only at h
  repeat' split at h
  case h_1.isTrue.isFalse =>
    generalize specialHost _ = host at h
    cases host with
    | error e => simp [Except.map] at h
    | ok host => exact (Except.ok.inj h) ▸ rfl
  all_goals exact (Except.ok.inj h) ▸ rfl

theorem head?_pathPart (h : t.head? ≠ some '/') : (pathPart t).head? ≠ some '/' := by
  cases t with
  | nil => simp [pathPart]
  | cons c t =>
    rw [pathPart, List.takeWhile_cons]
    split
    · exact h
    · simp

/-- What is found in a URL that is not special: a path that stands as it is or has no slash before
it, a host as its reader leaves it and a port that is none too large. -/
theorem of_parse_other (h : parse t = .ok url) (hkind : Kind.ofScheme url.scheme = .other) :
    (PlainPath url.path ∨ url.path.head? ≠ some '/') ∧
      (∀ host ∈ url.host, Host host) ∧ ∀ port ∈ url.port, port ≤ 65535 := by
  unfold parse at h
  split at h
  · simp at h
  case h_2 scheme rest _ =>
    split at h <;> rename_i hscheme
    · rw [scheme_of_parseFile h, hscheme] at hkind
      simp at hkind
    · rw [scheme_of_parseAuthority h, hscheme] at hkind
      simp at hkind
    · split at h
      · obtain ⟨hhost, hport, rest, hpath⟩ := of_parseAuthority h
        refine ⟨?_, hhost, hport⟩
        rw [hpath]
        rcases pathAfterAuthority_cases rest with hnil | hplain
        · exact .inr (by simp [hnil])
        · exact .inl hplain
      · obtain rfl := Except.ok.inj h
        exact ⟨.inl (plainPath_hierarchicalPath _), by simp, by simp⟩
      · rename_i hslash
        obtain rfl := Except.ok.inj h
        refine ⟨.inr (head?_encodeIn (head?_pathPart fun hhead => ?_)), by simp, by simp⟩
        obtain ⟨path, rfl⟩ := List.head?_eq_some_iff.1 hhead
        exact hslash path rfl

end Url

namespace Endpoint

variable {t path host : Text} {port : Nat} {e : Endpoint}

/-- The path of the endpoint, if it has one, begins with a slash. -/
def IsAbsolute : Endpoint → Prop
  | unix path => path.head? = some '/'
  | tcp _ _ => True

/-- The parts of the endpoint stand in a URL as they are. -/
def StandsInUrl : Endpoint → Prop
  | unix path => Url.PlainPath path
  | tcp host port => Url.Host host ∧ port ≤ 65535

theorem StandsInUrl.isAbsolute (h : e.StandsInUrl) : e.IsAbsolute := by
  cases e with
  | unix path => exact Url.PlainPath.head?_eq h
  | tcp host port => trivial

/-- An endpoint is read only from URLs of two schemes, and neither is special. -/
theorem standsInUrl_of_parse (h : parse t = .ok e) : e.StandsInUrl ∨ ¬e.IsAbsolute := by
  rw [parse] at h
  split at h <;> rename_i hurl
  · rw [ofUrl] at h
    split at h <;> rename_i hunix
    · obtain ⟨hpath, -, -⟩ := Url.of_parse_other hurl (by rw [hunix]; decide)
      split at h
      · simp at h
      · obtain rfl := Except.ok.inj h
        exact hpath
    · split at h <;> rename_i htcp
      · obtain ⟨-, hhost, hport⟩ := Url.of_parse_other hurl (by rw [htcp]; decide)
        split at h <;> rename_i hsome
        · simp at h
        · simp at h
        · obtain rfl := Except.ok.inj h
          exact .inl ⟨hhost _ (by assumption), hport _ (by assumption)⟩
      · simp at h
  · simp at h

/-! ## Reading what is shown -/

theorem display_unix (path : Text) : (unix path).display = "unix://".toList ++ path := rfl

/-- Behind two slashes only a plain path is found. -/
theorem plainPath_of_parse_unix (h : parse (unix t).display = .ok (unix path)) :
    Url.PlainPath path := by
  have hhead : ∀ c ∈ "unix://".toList, 0x20 < c.toNat := Url.lt_toNat_of_all (by decide)
  obtain ⟨rest, -, hcleaned⟩ := Url.exists_cleaned_append (by decide) hhead t
  have hurl : Url.parse (unix t).display = Url.parseAuthority .other "unix".toList rest :=
    Url.parse_of_slashes (by rw [display_unix, hcleaned]; exact Url.splitScheme_unix rest)
      (by decide)
  rw [parse, hurl] at h
  split at h <;> rename_i hread
  · obtain ⟨-, -, after, hpath⟩ := Url.of_parseAuthority hread
    rw [ofUrl, if_pos (Url.scheme_of_parseAuthority hread)] at h
    split at h <;> rename_i hne
    · simp at h
    · obtain rfl := unix.inj (Except.ok.inj h)
      rw [hpath] at hne ⊢
      exact (Url.pathAfterAuthority_cases after).resolve_left hne
  · simp at h

/-- A plain path is read back. -/
theorem parse_display_unix (h : Url.PlainPath path) :
    parse (unix path).display = .ok (unix path) := by
  have hcleaned : Url.cleaned (unix path).display = (unix path).display := by
    refine Url.cleaned_eq_self (List.forall_mem_append.2
      ⟨Url.lt_toNat_of_all (by decide), fun c hc => ?_⟩)
    exact Url.lt_toNat_of_isPathEncoded (h.plain c hc)
  have hurl : Url.parse (unix path).display = Url.parseAuthority .other "unix".toList path :=
    Url.parse_of_slashes (by rw [hcleaned, display_unix]; exact Url.splitScheme_unix path)
      (by decide)
  obtain ⟨rest, hrest⟩ := List.head?_eq_some_iff.1 h.head?_eq
  have hne : path ≠ [] := hrest ▸ List.cons_ne_nil '/' rest
  rw [parse, hurl, hrest, Url.parseAuthority_slash, ← hrest, h.pathAfterAuthority_eq]
  dsimp only
  rw [ofUrl, if_pos rfl, if_neg hne]

theorem display_tcp (host : Text) (port : Nat) :
    (tcp host port).display = "tcp://".toList ++ (host ++ ':' :: Text.ofNat port) :=
  List.append_assoc _ _ _

/-- A host and a port are read back. -/
theorem parse_display_tcp (h : Url.Host host) (hport : port ≤ 65535) :
    parse (tcp host port).display = .ok (tcp host port) := by
  have hcleaned : Url.cleaned (tcp host port).display = (tcp host port).display := by
    rw [display_tcp]
    refine Url.cleaned_eq_self (List.forall_mem_append.2
      ⟨Url.lt_toNat_of_all (by decide), List.forall_mem_append.2
        ⟨fun c hc => (h.mem hc).1, List.forall_mem_cons.2 ⟨by decide, fun c hc => ?_⟩⟩⟩)
    have hdigit := Digit.isBelow_of_mem_toDigits (by decide) (by decide) hc
    exact (Url.standsInHost_of_isBelow hdigit).seen.1
  have hurl : Url.parse (tcp host port).display =
      Url.parseAuthority .other "tcp".toList (host ++ ':' :: Text.ofNat port) :=
    Url.parse_of_slashes (by rw [hcleaned, display_tcp]; exact Url.splitScheme_tcp _) (by decide)
  rw [parse, hurl, Url.parseAuthority_port h hport]
  rfl

/-- An endpoint is read back when its parts stand in a URL as they are, and not otherwise. -/
theorem parse_display_eq_iff : parse e.display = .ok e ↔ e.StandsInUrl := by
  cases e with
  | unix path => exact ⟨plainPath_of_parse_unix, parse_display_unix⟩
  | tcp host port =>
    constructor
    · intro h
      exact (standsInUrl_of_parse h).resolve_right (not_not_intro trivial)
    · rintro ⟨hhost, hport⟩
      exact parse_display_tcp hhost hport

/-! ## Tables -/

theorem ofData_text_eq_ok_iff : ofData (.text t) = .ok e ↔ parse t = .ok e := by
  rw [ofData]
  cases parse t <;> simp [Except.mapError]

theorem ofData_toData_unix (path : Text) : ofData (unix path).toData = .ok (unix path) := rfl

theorem ofData_toData_tcp (host : Text) (port : Nat) :
    ofData (tcp host port).toData =
      if port ≤ 65535 then .ok (tcp host port) else .error .mismatch := by
  have hnat : Data.natTo? 65535 (.int port) = if port ≤ 65535 then some port else none := by
    rw [Data.natTo?, Int.toNat_natCast]
    exact if_congr (by omega) rfl rfl
  have hparts : (do
      let transport ← Transport.ofTag? (← (tcp host port).toData.get? tagKey)
      ofParts? transport (← (partKeys transport).mapM (tcp host port).toData.get?)) =
      ofParts? .tcp [.text host, .int port] := rfl
  rw [ofData, hparts]
  · by_cases hport : port ≤ 65535 <;> simp [ofParts?, Data.text?, hnat, hport]
  all_goals simp [toData]

/-- The table of an endpoint names the endpoint, so its URL must do so too. -/
theorem ofData_display_eq_iff :
    ofData (.text e.display) = ofData e.toData ↔ parse e.display = .ok e := by
  cases e with
  | unix path =>
    rw [ofData_toData_unix]
    exact ofData_text_eq_ok_iff
  | tcp host port =>
    rw [ofData_toData_tcp]
    split <;> rename_i hport
    · exact ofData_text_eq_ok_iff
    · refine iff_of_false (fun h => ?_) fun h => hport (parse_display_eq_iff.1 h).2
      rw [ofData] at h
      cases hread : parse (tcp host port).display <;> simp [hread, Except.mapError] at h

/-- **An endpoint is read back from the URL it is shown as exactly when its parts stand in a URL as
they are:** a path when it begins with a slash and has no dot segment and no character that is
percent-encoded. An endpoint that was read from a URL is read back exactly when it has no path
without a slash before it. The URL and the table of an endpoint name the same endpoint exactly when
it is read back. Paths are compared as they are written. -/
theorem parse_display_iff (e : Endpoint) :
    (parse e.display = .ok e ↔ e.StandsInUrl) ∧
      (∀ t, parse t = .ok e → (parse e.display = .ok e ↔ e.IsAbsolute)) ∧
      (ofData (.text e.display) = ofData e.toData ↔ parse e.display = .ok e) := by
  refine ⟨parse_display_eq_iff, fun t h => ?_, ofData_display_eq_iff⟩
  rw [parse_display_eq_iff]
  constructor
  · exact StandsInUrl.isAbsolute
  · intro habsolute
    exact (standsInUrl_of_parse h).resolve_right (not_not_intro habsolute)

/-- A path without a slash before it is shown where a host stands, so another socket is read. A
space in a path is read as the three characters that stand for it. -/
theorem parse_display_relative :
    (parse "unix:run/glyphd.sock".toList = .ok (unix "run/glyphd.sock".toList) ∧
        parse (unix "run/glyphd.sock".toList).display = .ok (unix "/glyphd.sock".toList)) ∧
      ("/a b".toList.head? = some '/' ∧
        (∀ s ∈ "/a b".toList.splitOn '/',
          Url.isSingleDot s = false ∧ Url.isDoubleDot s = false) ∧
        parse (unix "/a b".toList).display = .ok (unix "/a%20b".toList)) := by
  decide

end Endpoint
end DefinitionServer
