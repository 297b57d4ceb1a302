import DefinitionServer.Endpoint.Url
import DefinitionServer.Proofs.Words

/-!
# Paths of URLs

The path of a URL as its reader leaves it. It begins with a slash, its dot segments are resolved and
its characters are percent-encoded where they must be. Such a path is read as itself.

## Main definitions

* `Url.PlainPath`: a path stands in a URL as it is.
-/
namespace DefinitionServer.Url

variable {c x : Char} {t path segment : Text} {done pieces : List Text} {set : Char → Bool}

/-! ## Percent-encoding -/

theorem mem_percent (h : x ∈ percent c) : x = '%' ∨ ∃ n < 16, x = hexDigit n := by
  rw [percent, List.mem_flatMap] at h
  obtain ⟨b, -, h⟩ := h
  have hb : b.toNat < 256 := b.toNat_lt
  simp only [List.mem_cons, List.not_mem_nil, or_false] at h
  rcases h with rfl | rfl | rfl
  · exact .inl rfl
  · exact .inr ⟨_, by omega, rfl⟩
  · exact .inr ⟨_, by omega, rfl⟩

theorem plain_hexDigit :
    ∀ n < 16, isPathEncoded (hexDigit n) = false ∧ isForbidden (hexDigit n) = false := by
  decide

/-- What characters are encoded with is never encoded itself and may stand in hosts and paths. -/
theorem plain_of_mem_percent (h : x ∈ percent c) :
    isPathEncoded x = false ∧ isForbidden x = false := by
  rcases mem_percent h with rfl | ⟨n, hn, rfl⟩
  · decide
  · exact plain_hexDigit n hn

theorem isControl_of_isPathEncoded (h : isPathEncoded c = false) : isControl c = false := by
  simp only [isPathEncoded, Bool.or_eq_false_iff] at h
  tauto

/-- What stands in a path as it is is seen. -/
theorem lt_toNat_of_isPathEncoded (h : isPathEncoded c = false) : 0x20 < c.toNat := by
  have hcontrol := isControl_of_isPathEncoded h
  simp only [isControl, Bool.or_eq_false_iff, decide_eq_false_iff_not] at hcontrol
  have hspace : c.toNat ≠ ' '.toNat := fun heq => by
    rw [Char.toNat_inj.1 heq] at h
    exact absurd h (by decide)
  have hfirst : ' '.toNat = 0x20 := rfl
  omega

theorem encodeIn_nil (set : Char → Bool) : encodeIn set [] = [] := rfl

theorem encodeIn_cons (set : Char → Bool) (c : Char) (t : Text) :
    encodeIn set (c :: t) = (if set c then percent c else [c]) ++ encodeIn set t :=
  List.flatMap_cons

theorem encodeIn_eq_self (h : ∀ c ∈ t, set c = false) : encodeIn set t = t := by
  induction t with
  | nil => rfl
  | cons c t ih =>
    obtain ⟨hc, ht⟩ := List.forall_mem_cons.1 h
    rw [encodeIn_cons, hc, ih ht]
    rfl

theorem mem_encodeIn (h : x ∈ encodeIn set t) :
    (x ∈ t ∧ set x = false) ∨ (isPathEncoded x = false ∧ isForbidden x = false) := by
  rw [encodeIn, List.mem_flatMap] at h
  obtain ⟨c, hc, h⟩ := h
  split at h <;> rename_i hset
  · exact .inr (plain_of_mem_percent h)
  · obtain rfl := List.mem_singleton.1 h
    exact .inl ⟨hc, by simpa using hset⟩

theorem percent_eq_cons (c : Char) : ∃ digits, percent c = '%' :: digits := by
  obtain ⟨b, bs, hbytes⟩ := List.exists_cons_of_ne_nil (String.utf8EncodeChar_ne_nil (c := c))
  rw [percent, Text.Utf8.encode, List.flatMap_singleton, hbytes, List.flatMap_cons]
  exact ⟨_, rfl⟩

/-- Encoding brings no slash to the beginning of a text. -/
theorem head?_encodeIn (h : t.head? ≠ some '/') : (encodeIn set t).head? ≠ some '/' := by
  cases t with
  | nil => simp [encodeIn_nil]
  | cons c t =>
    rw [encodeIn_cons]
    split
    · obtain ⟨digits, hdigits⟩ := percent_eq_cons c
      simp [hdigits]
    · exact h

/-! ## Segments -/

theorem mem_of_mem_shortened (h : segment ∈ shortened done) : segment ∈ done := by
  rw [shortened] at h
  split at h
  · split at h
    · exact h
    · exact List.dropLast_subset done h
  · exact h

/-- What holds of the empty segment, of the segments before and of all others but dot segments holds
of every segment that is left. -/
theorem forall_segmentsAfter {P : Text → Prop} (hnil : P []) (hdone : ∀ s ∈ done, P s)
    (hpieces : ∀ s ∈ pieces, isDoubleDot s = false → isSingleDot s = false → P s) :
    ∀ s ∈ segmentsAfter done pieces, P s := by
  have hshort : ∀ {done : List Text}, (∀ s ∈ done, P s) → ∀ s ∈ shortened done, P s :=
    fun h s hs => h s (mem_of_mem_shortened hs)
  have hconcat : ∀ {done : List Text} {last : Text}, (∀ s ∈ done, P s) → P last →
      ∀ s ∈ done ++ [last], P s :=
    fun h hlast => List.forall_mem_append.2 ⟨h, by simpa using hlast⟩
  fun_induction segmentsAfter done pieces with
  | case1 => exact hdone
  | case2 => exact hconcat (hshort hdone) hnil
  | case3 => exact hconcat hdone hnil
  | case4 done last hdouble hsingle =>
    exact hconcat hdone (hpieces last List.mem_cons_self (by simpa using hdouble)
      (by simpa using hsingle))
  | case5 done segment rest _ _ ih =>
    exact ih (hshort hdone) fun s hs => hpieces s (List.mem_cons_of_mem _ hs)
  | case6 done segment rest _ _ _ ih =>
    exact ih hdone fun s hs => hpieces s (List.mem_cons_of_mem _ hs)
  | case7 done segment rest _ hdouble hsingle ih =>
    exact ih (hconcat hdone (hpieces segment List.mem_cons_self (by simpa using hdouble)
      (by simpa using hsingle))) fun s hs => hpieces s (List.mem_cons_of_mem _ hs)

theorem segmentsAfter_ne_nil (h : pieces ≠ []) : segmentsAfter done pieces ≠ [] := by
  fun_induction segmentsAfter done pieces with
  | case1 => exact absurd rfl h
  | case2 | case3 | case4 => simp
  | case5 _ _ _ hrest _ ih => exact ih hrest
  | case6 _ _ _ hrest _ _ ih => exact ih hrest
  | case7 _ _ _ hrest _ _ ih => exact ih hrest

/-- Segments without dot segments among them are kept. -/
theorem segmentsAfter_eq_append
    (h : ∀ s ∈ pieces, isSingleDot s = false ∧ isDoubleDot s = false) :
    segmentsAfter done pieces = done ++ pieces := by
  fun_induction segmentsAfter done pieces with
  | case1 => rw [List.append_nil]
  | case4 => rfl
  | case7 done segment rest _ _ _ ih =>
    rw [ih fun s hs => h s (List.mem_cons_of_mem _ hs), List.append_assoc, List.singleton_append]
  | case2 _ last hdot | case5 _ last _ _ hdot =>
    simp [(h last List.mem_cons_self).2] at hdot
  | case3 _ last _ hdot | case6 _ last _ _ _ hdot =>
    simp [(h last List.mem_cons_self).1] at hdot

/-! ## Paths that stand as they are -/

/-- The path begins with a slash, has no dot segment and no character that must be
percent-encoded. -/
structure PlainPath (path : Text) : Prop where
  head?_eq : path.head? = some '/'
  plain : ∀ c ∈ path, isPathEncoded c = false
  notDot : ∀ s ∈ path.splitOn '/', isSingleDot s = false ∧ isDoubleDot s = false

instance (path : Text) : Decidable (PlainPath path) :=
  decidable_of_iff (path.head? = some '/' ∧ (path.all fun c => !isPathEncoded c) = true ∧
      ((path.splitOn '/').all fun s => !isSingleDot s && !isDoubleDot s) = true)
    ⟨fun ⟨hhead, hplain, hdot⟩ => ⟨hhead, by simpa using hplain, by simpa using hdot⟩,
      fun h => ⟨h.head?_eq, by simpa using h.plain, by simpa using h.notDot⟩⟩

/-- A path is parted where its slashes are. -/
theorem splitOn_flatMap_slash (h : ∀ s ∈ pieces, '/' ∉ s) :
    (pieces.flatMap ('/' :: ·)).splitOn '/' = [] :: pieces :=
  Text.splitOn_eq_cons_iff.2 ⟨rfl, List.forall_mem_cons.2 ⟨by simp, h⟩⟩

theorem splitOn_slash (t : Text) : ('/' :: t).splitOn '/' = [] :: t.splitOn '/' :=
  List.splitOn_append_cons_self_of_not_mem List.not_mem_nil t

theorem hierarchicalPath_slash (path : Text) :
    hierarchicalPath ('/' :: path) =
      (segmentsAfter [] ((encodeIn (fun c => c ≠ '/' && isPathEncoded c) path).splitOn '/')).flatMap
        ('/' :: ·) := by
  rw [hierarchicalPath, segments, encodeIn_cons, if_neg (by decide), List.singleton_append,
    splitOn_slash, List.tail_cons]

/-- The reader leaves a plain path. -/
theorem plainPath_hierarchicalPath (path : Text) : PlainPath (hierarchicalPath ('/' :: path)) := by
  rw [hierarchicalPath_slash]
  -- a segment that is left is empty or a piece of the encoded path
  have hkept := @forall_segmentsAfter []
    ((encodeIn (fun c => c ≠ '/' && isPathEncoded c) path).splitOn '/')
    (fun s => '/' ∉ s ∧ (∀ c ∈ s, isPathEncoded c = false) ∧
      isSingleDot s = false ∧ isDoubleDot s = false)
    ⟨by simp, by simp, by decide, by decide⟩ (by simp) fun s hs hdouble hsingle => by
      obtain ⟨hslash, hmem⟩ := Text.of_mem_splitOn hs
      refine ⟨hslash, fun c hc => ?_, hsingle, hdouble⟩
      rcases mem_encodeIn (hmem c hc) with ⟨-, hset⟩ | ⟨hplain, -⟩
      · have hne : c ≠ '/' := fun h => hslash (h ▸ hc)
        simpa [hne] using hset
      · exact hplain
  have hne := @segmentsAfter_ne_nil []
    _ (List.splitOn_ne_nil '/' (encodeIn (fun c => c ≠ '/' && isPathEncoded c) path))
  generalize segmentsAfter [] _ = kept at hkept hne
  constructor
  · obtain ⟨first, others, rfl⟩ := List.exists_cons_of_ne_nil hne
    rfl
  · intro c hc
    obtain ⟨s, hs, hc⟩ := List.mem_flatMap.1 hc
    rcases List.mem_cons.1 hc with rfl | hc
    · decide
    · exact (hkept s hs).2.1 c hc
  · rw [splitOn_flatMap_slash fun s hs => (hkept s hs).1]
    exact List.forall_mem_cons.2 ⟨by decide, fun s hs => (hkept s hs).2.2⟩

/-- A plain path is read as itself. -/
theorem PlainPath.hierarchicalPath_eq (h : PlainPath path) : hierarchicalPath path = path := by
  obtain ⟨path, rfl⟩ : ∃ r, path = '/' :: r := List.head?_eq_some_iff.1 h.head?_eq
  have hplain := (List.forall_mem_cons.1 h.plain).2
  have hdot := h.notDot
  rw [splitOn_slash] at hdot
  obtain ⟨first, others, hsplit⟩ := List.exists_cons_of_ne_nil (List.splitOn_ne_nil '/' path)
  rw [hierarchicalPath_slash, encodeIn_eq_self fun c hc => by simp [hplain c hc],
    segmentsAfter_eq_append (List.forall_mem_cons.1 hdot).2, List.nil_append, hsplit,
    (Text.splitOn_eq_cons_iff.1 hsplit).1]
  rfl

example : hierarchicalPath "/run/glyph.sock".toList = "/run/glyph.sock".toList :=
  PlainPath.hierarchicalPath_eq (by decide)

theorem pathPart_eq_self (h : ∀ c ∈ t, isPathEncoded c = false) : pathPart t = t := by
  refine List.takeWhile_eq_self_iff.2 fun c hc => ?_
  have hquery : c ≠ '?' := fun he => absurd (h '?' (he ▸ hc)) (by decide)
  have hfragment : c ≠ '#' := fun he => absurd (h '#' (he ▸ hc)) (by decide)
  simp [hquery, hfragment]

/-- A path after an authority is missing or plain. -/
theorem pathAfterAuthority_cases (t : Text) :
    pathAfterAuthority t = [] ∨ PlainPath (pathAfterAuthority t) := by
  rw [pathAfterAuthority]
  split
  · exact .inl rfl
  · exact .inr (plainPath_hierarchicalPath _)
  · exact .inr (plainPath_hierarchicalPath _)

theorem PlainPath.pathAfterAuthority_eq (h : PlainPath path) : pathAfterAuthority path = path := by
  obtain ⟨rest, rfl⟩ : ∃ r, path = '/' :: r := List.head?_eq_some_iff.1 h.head?_eq
  rw [pathAfterAuthority, pathPart_eq_self h.plain]
  exact h.hierarchicalPath_eq

end DefinitionServer.Url
