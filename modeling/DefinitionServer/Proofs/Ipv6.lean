import DefinitionServer.Endpoint.Address
import DefinitionServer.Proofs.CharacterRows
import DefinitionServer.Proofs.Digits
import DefinitionServer.Proofs.Words

/-!
# Addresses read back

The short form of an address is read as the address. It may leave out one run of zero groups, and
the reader puts as many in that place as are missing.

## Main definitions

* `Address.IsAddress`: groups are an address.
* `Address.opened?`, `Address.filled?`: the two halves of reading, before and after the zeros that
  are missing are known.
* `Address.Fits`: groups that are read so far are the beginning of an address.
-/
namespace DefinitionServer.Address

variable {done groups gs : List Nat} {gap : Option Nat} {g : Nat} {t : Text} {c : Char}

/-- Eight groups, each of four hexadecimal digits at most. -/
structure IsAddress (groups : List Nat) : Prop where
  length_eq : groups.length = 8
  lt : ∀ g ∈ groups, g < 65536

/-! ## One group -/

theorem length_toDigits_le (h : g < 65536) : (Nat.toDigits 16 g).length ≤ 4 :=
  (Nat.length_toDigits_le_iff (by decide) (by decide)).2 h

theorem isBelow_colon : Digit.isBelow 16 ':' = false := by decide

/-- Digits at the beginning are read up to what is no digit. -/
theorem takeWhile_take {p : Char → Bool} {digits rest : Text} {n : Nat}
    (hdigits : ∀ c ∈ digits, p c = true) (hlen : digits.length ≤ n)
    (hrest : ∀ c ∈ rest.head?, p c = false) :
    ((digits ++ rest).take n).takeWhile p = digits := by
  rw [List.take_append, List.take_of_length_le hlen, List.takeWhile_append_of_pos hdigits]
  cases rest with
  | nil => simp
  | cons c rest =>
    cases n - digits.length with
    | zero => simp
    | succ k => simp [hrest c rfl]

theorem groupsFrom?_nil : groupsFrom? done gap [] = some (done, gap) := by
  rw [groupsFrom?]
  rfl

/-- A colon where a group should begin leaves groups out. -/
theorem groupsFrom?_colon (h : done.length ≠ 8) (t : Text) :
    groupsFrom? done none (':' :: t) = groupsFrom? (done ++ [0]) (some (done.length + 1)) t := by
  rw [groupsFrom?]
  simp [h]

/-- The hexadecimal digits at the beginning of a text, at most four. -/
def leading (t : Text) : Text := (t.take 4).takeWhile (Digit.isBelow 16)

/-- What follows the digits of a group decides. -/
theorem groupsFrom?_eq (h : done.length ≠ 8) (ht : t ≠ []) (hhead : t.head? ≠ some ':') :
    groupsFrom? done gap t =
      match _after : t.drop (leading t).length with
      | [] => some (done ++ [Digit.number 16 (leading t)], gap)
      | [':'] => none
      | ':' :: c :: rest => groupsFrom? (done ++ [Digit.number 16 (leading t)]) gap (c :: rest)
      | '.' :: _ =>
        if leading t = [] ∨ 6 < done.length then none
        else (quad? t).map fun pair => (done ++ pair, gap)
      | _ => none := by
  rw [groupsFrom?, dif_neg ht, if_neg h, if_neg hhead]
  rfl

/-- The digits of a group are read as the group. -/
theorem leading_digits (hg : g < 65536) {rest : Text}
    (hrest : ∀ c ∈ rest.head?, Digit.isBelow 16 c = false) :
    leading (Nat.toDigits 16 g ++ rest) = Nat.toDigits 16 g :=
  takeWhile_take (fun _ hc => Digit.isBelow_of_mem_toDigits (by decide) (by decide) hc)
    (length_toDigits_le hg) hrest

theorem head?_digits_append (g : Nat) (rest : Text) :
    (Nat.toDigits 16 g ++ rest).head? ≠ some ':' := by
  cases hdigits : Nat.toDigits 16 g with
  | nil => exact absurd hdigits Nat.toDigits_ne_nil
  | cons c cs =>
    have hc : c ∈ Nat.toDigits 16 g := hdigits ▸ List.mem_cons_self
    have hbelow := Digit.isBelow_of_mem_toDigits (by decide) (by decide) hc
    rintro ⟨⟩
    exact absurd hbelow (by decide)

/-- The last group. -/
theorem groupsFrom?_last (h : done.length ≠ 8) (hg : g < 65536) :
    groupsFrom? done gap (Nat.toDigits 16 g) = some (done ++ [g], gap) := by
  have hleading := @leading_digits g hg [] (by simp)
  have hhead := head?_digits_append g []
  rw [List.append_nil] at hleading hhead
  rw [groupsFrom?_eq h Nat.toDigits_ne_nil hhead, hleading, List.drop_length,
    Digit.number_toDigits (by decide) (by decide)]

/-- A group that a colon and more follow. -/
theorem groupsFrom?_next (h : done.length ≠ 8) (hg : g < 65536) (ht : t ≠ []) :
    groupsFrom? done gap (Nat.toDigits 16 g ++ ':' :: t) = groupsFrom? (done ++ [g]) gap t := by
  obtain ⟨c, rest, rfl⟩ := List.exists_cons_of_ne_nil ht
  have hleading := @leading_digits g hg (':' :: c :: rest) (by simp [isBelow_colon])
  rw [groupsFrom?_eq h (by simp) (head?_digits_append g _), hleading, List.drop_left,
    Digit.number_toDigits (by decide) (by decide)]
  cases rest <;> rfl

/-! ## Groups with colons between them -/

theorem showGroups_singleton (g : Nat) : showGroups [g] = Nat.toDigits 16 g :=
  Text.join_singleton ':' _

theorem showGroups_cons_cons (g g' : Nat) (gs : List Nat) :
    showGroups (g :: g' :: gs) = Nat.toDigits 16 g ++ ':' :: showGroups (g' :: gs) :=
  Text.join_cons_cons ':' _ _ _

theorem showGroups_cons_ne_nil (g : Nat) (gs : List Nat) : showGroups (g :: gs) ≠ [] := by
  cases gs with
  | nil =>
    rw [showGroups_singleton]
    exact Nat.toDigits_ne_nil
  | cons g' gs => simp [showGroups_cons_cons]

/-- Groups that end the text. -/
theorem groupsFrom?_showGroups (hlen : done.length + gs.length ≤ 8) (hlt : ∀ g ∈ gs, g < 65536) :
    groupsFrom? done gap (showGroups gs) = some (done ++ gs, gap) := by
  induction gs generalizing done with
  | nil =>
    rw [List.append_nil]
    exact groupsFrom?_nil
  | cons g gs ih =>
    obtain ⟨hg, hlt⟩ := List.forall_mem_cons.1 hlt
    rw [List.length_cons] at hlen
    have hdone : done.length ≠ 8 := by omega
    cases gs with
    | nil =>
      rw [showGroups_singleton]
      exact groupsFrom?_last hdone hg
    | cons g' gs =>
      rw [showGroups_cons_cons, groupsFrom?_next hdone hg (showGroups_cons_ne_nil g' gs),
        ih (by simp at hlen ⊢; omega) hlt, List.append_assoc, List.singleton_append]

/-- Groups that a colon and more follow. -/
theorem groupsFrom?_showGroups_append (hgs : gs ≠ []) (hlen : done.length + gs.length ≤ 8)
    (hlt : ∀ g ∈ gs, g < 65536) (ht : t ≠ []) :
    groupsFrom? done gap (showGroups gs ++ ':' :: t) = groupsFrom? (done ++ gs) gap t := by
  induction gs generalizing done with
  | nil => exact absurd rfl hgs
  | cons g gs ih =>
    obtain ⟨hg, hlt⟩ := List.forall_mem_cons.1 hlt
    rw [List.length_cons] at hlen
    have hdone : done.length ≠ 8 := by omega
    cases gs with
    | nil =>
      rw [showGroups_singleton]
      exact groupsFrom?_next hdone hg ht
    | cons g' gs =>
      rw [showGroups_cons_cons, List.append_assoc, List.cons_append,
        groupsFrom?_next hdone hg (by simp), ih (by simp) (by simp at hlen ⊢; omega) hlt,
        List.append_assoc, List.singleton_append]

/-! ## The run of zeros that is left out -/

theorem longestZeros_eq_some {start len : Nat} (h : longestZeros groups = some (start, len)) :
    2 ≤ len ∧ len = ((groups.drop start).takeWhile (· = 0)).length := by
  -- every run in the list is a run of zeros, and so is the best of those looked at
  refine List.foldlRecOn _ _
    (motive := fun best => ∀ run, best = some run →
      2 ≤ run.2 ∧ run.2 = ((groups.drop run.1).takeWhile (· = 0)).length)
    (by simp) ?_ (start, len) h
  intro best hbest run hrun
  obtain ⟨i, -, rfl⟩ := List.mem_map.1 hrun
  dsimp only
  split <;> rename_i hlong
  · rintro run ⟨⟩
    exact ⟨hlong.1, rfl⟩
  · exact hbest

/-- Zeros stand in the place of the run that is left out. -/
theorem eq_append_of_longestZeros {start len : Nat} (h : longestZeros groups = some (start, len)) :
    groups = groups.take start ++ List.replicate len 0 ++ groups.drop (start + len) := by
  have hlen := (longestZeros_eq_some h).2
  have hzeros : (groups.drop start).take len = List.replicate len 0 := by
    have htake := List.prefix_iff_eq_take.1
      (List.takeWhile_prefix (l := groups.drop start) (fun g => decide (g = 0)))
    rw [← hlen] at htake
    rw [← htake, List.eq_replicate_iff]
    exact ⟨hlen.symm, fun g hg => by simpa using List.mem_takeWhile_imp hg⟩
  rw [← hzeros, ← List.drop_drop, List.append_assoc, List.take_append_drop, List.take_append_drop]

/-! ## The whole address -/

/-- The groups with zeros in the gap. Without a gap all eight must be there. -/
def filled? : List Nat × Option Nat → Option (List Nat)
  | (done, some g) => some (done.take g ++ List.replicate (8 - done.length) 0 ++ done.drop g)
  | (done, none) => if done.length = 8 then some done else none

/-- The groups of a text with the place of the gap, which may be at the beginning. -/
def opened? : Text → Option (List Nat × Option Nat)
  | ':' :: ':' :: rest => groupsFrom? [0] (some 1) rest
  | ':' :: _ => none
  | [] | [_] => none
  | t => groupsFrom? [] none t

theorem opened?_of_head? (hhead : t.head? ≠ some ':') (ht : 2 ≤ t.length) :
    opened? t = groupsFrom? [] none t := by
  match t, ht with
  | c :: c' :: t, _ =>
    have hc : c ≠ ':' := fun h => hhead (congrArg some h)
    rw [opened?] <;> simp [hc]

theorem ipv6?_eq_bind (t : Text) : ipv6? t = (opened? t).bind filled? := by
  unfold ipv6?
  split
  case h_2 | h_3 | h_4 => simp [opened?, *]
  case h_1 =>
    refine Option.bind_congr ?_
    rintro ⟨_, gap⟩ -
    cases gap <;> rfl
  case h_5 hcolons hcolon hnil hone =>
    rw [opened?.eq_5 t hcolons hcolon hnil hone]
    refine Option.bind_congr ?_
    rintro ⟨_, gap⟩ -
    cases gap <;> rfl

/-- The zeros of a gap between groups. -/
theorem filled?_gap (before after : List Nat) :
    filled? (before ++ [0] ++ after, some (before.length + 1)) =
      some (before ++ 0 :: List.replicate (7 - before.length - after.length) 0 ++ after) := by
  have hbefore : (before ++ [0]).length = before.length + 1 := by simp
  have hzeros : 8 - (before ++ [0] ++ after).length = 7 - before.length - after.length := by
    simp only [List.length_append, List.length_singleton]
    omega
  rw [filled?, hzeros, ← hbefore, List.take_left, List.drop_left, List.append_assoc before,
    List.singleton_append]

theorem head?_showGroups_append (g : Nat) (gs : List Nat) (t : Text) :
    (showGroups (g :: gs) ++ t).head? ≠ some ':' := by
  cases gs with
  | nil =>
    rw [showGroups_singleton]
    exact head?_digits_append g t
  | cons g' gs =>
    rw [showGroups_cons_cons, List.append_assoc]
    exact head?_digits_append g _

/-- Two colons are read as all the zeros that are missing. -/
theorem ipv6?_gap {before after : List Nat} (hlen : before.length + after.length ≤ 7)
    (hbefore : ∀ g ∈ before, g < 65536) (hafter : ∀ g ∈ after, g < 65536) :
    ipv6? (showGroups before ++ ':' :: ':' :: showGroups after) =
      some (before ++ 0 :: List.replicate (7 - before.length - after.length) 0 ++ after) := by
  have hread : groupsFrom? (before ++ [0]) (some (before.length + 1)) (showGroups after) =
      some (before ++ [0] ++ after, some (before.length + 1)) :=
    groupsFrom?_showGroups (by simp; omega) hafter
  rw [ipv6?_eq_bind]
  cases before with
  | nil =>
    change opened? (showGroups [] ++ ':' :: ':' :: showGroups after) = _ at hread
    rw [hread, Option.bind_some, filled?_gap]
  | cons g gs =>
    rw [opened?_of_head? (head?_showGroups_append g gs _) (by simp; omega),
      groupsFrom?_showGroups_append (by simp) (by simp at hlen ⊢; omega) hbefore (by simp),
      List.nil_append, groupsFrom?_colon (by omega), hread, Option.bind_some, filled?_gap]

/-- Eight groups are read as they are. -/
theorem ipv6?_showGroups (h : IsAddress groups) : ipv6? (showGroups groups) = some groups := by
  have hread : groupsFrom? [] none (showGroups groups) = some (groups, none) :=
    groupsFrom?_showGroups (by simp [h.length_eq]) h.lt
  match groups, h.length_eq with
  | g :: g' :: gs, hlen =>
    have hhead := head?_showGroups_append g (g' :: gs) []
    rw [List.append_nil] at hhead
    have htwo : 2 ≤ (showGroups (g :: g' :: gs)).length := by
      have := List.length_pos_iff.2 (showGroups_cons_ne_nil g' gs)
      rw [showGroups_cons_cons, List.length_append, List.length_cons]
      omega
    rw [ipv6?_eq_bind, opened?_of_head? hhead htwo, hread, Option.bind_some, filled?, if_pos hlen]

/-- **The short form of an address is read as the address.** -/
theorem ipv6?_showIpv6 (h : IsAddress groups) : ipv6? (showIpv6 groups) = some groups := by
  rw [showIpv6]
  cases hrun : longestZeros groups with
  | none => exact ipv6?_showGroups h
  | some run =>
    obtain ⟨start, len⟩ := run
    have hgroups := eq_append_of_longestZeros hrun
    have htwo := (longestZeros_eq_some hrun).1
    have hlen := congrArg List.length hgroups
    simp only [h.length_eq, List.length_append, List.length_replicate] at hlen
    dsimp only
    rw [List.append_assoc, List.cons_append, List.singleton_append,
      ipv6?_gap (by omega) (fun g hg => h.lt g (List.mem_of_mem_take hg))
        (fun g hg => h.lt g (List.mem_of_mem_drop hg))]
    obtain ⟨k, rfl⟩ : ∃ k, len = k + 1 := ⟨len - 1, by omega⟩
    conv => rhs; rw [hgroups]
    rw [List.replicate_succ]
    congr 5
    omega

/-! ## What is read -/

theorem octet?_lt {n : Nat} (h : octet? t = some n) : n < 256 := by
  rw [octet?, Option.ite_none_right_eq_some] at h
  obtain ⟨⟨-, -, -, hlt⟩, hn⟩ := h
  exact Option.some.inj hn ▸ hlt

theorem octets_lt {ts : List Text} {ns : List Nat} (h : ts.mapM octet? = some ns) :
    ∀ n ∈ ns, n < 256 := by
  have hread := mapM_eq_some_iff.1 h
  clear h
  induction hread with
  | nil => simp
  | cons hn _ ih => exact List.forall_mem_cons.2 ⟨octet?_lt hn, ih⟩

/-- Four decimal numbers make two groups. -/
theorem quad?_spec {pair : List Nat} (h : quad? t = some pair) :
    pair.length = 2 ∧ ∀ g ∈ pair, g < 65536 := by
  rw [quad?] at h
  split at h <;> rename_i hread
  · obtain rfl := Option.some.inj h
    have hlt := octets_lt hread
    simp only [List.mem_cons, List.not_mem_nil, or_false, forall_eq_or_imp, forall_eq] at hlt ⊢
    exact ⟨rfl, by omega, by omega⟩
  · simp at h

/-- A group has four digits at most. -/
theorem number_leading_lt (t : Text) : Digit.number 16 (leading t) < 65536 := by
  have hlen : (leading t).length ≤ 4 :=
    (List.takeWhile_sublist _).length_le.trans (List.length_take_le 4 t)
  calc Digit.number 16 (leading t)
      < 16 ^ (leading t).length := Digit.number_lt_pow fun _ hc => List.mem_takeWhile_imp hc
    _ ≤ 16 ^ 4 := Nat.pow_le_pow_right (by decide) hlen

/-- Eight groups at most, each of four hexadecimal digits at most. -/
structure Fits (groups : List Nat) : Prop where
  length_le : groups.length ≤ 8
  lt : ∀ g ∈ groups, g < 65536

theorem Fits.append {more : List Nat} (h : Fits done) (hlen : done.length + more.length ≤ 8)
    (hlt : ∀ g ∈ more, g < 65536) : Fits (done ++ more) where
  length_le := by rwa [List.length_append]
  lt := List.forall_mem_append.2 ⟨h.lt, hlt⟩

theorem Fits.concat (h : Fits done) (hlen : done.length ≠ 8) (hg : g < 65536) :
    Fits (done ++ [g]) :=
  h.append (by have := h.length_le; simp; omega) (by simpa using hg)

theorem fits_of_groupsFrom? {read : List Nat × Option Nat} (h : Fits done)
    (hread : groupsFrom? done gap t = some read) : Fits read.1 := by
  fun_induction groupsFrom? done gap t with
  | case1 =>
    obtain rfl := Option.some.inj hread
    exact h
  | case4 done gap t _ hlen _ _ ih => exact ih (h.concat hlen (by decide)) hread
  | case5 done gap t _ hlen _ =>
    obtain rfl := Option.some.inj hread
    exact h.concat hlen (number_leading_lt t)
  | case7 done gap t _ hlen _ _ _ _ _ _ ih => exact ih (h.concat hlen (number_leading_lt t)) hread
  | case9 done gap t _ _ _ _ _ _ hroom =>
    obtain ⟨pair, hpair, rfl⟩ := Option.map_eq_some_iff.1 hread
    obtain ⟨hlen, hlt⟩ := quad?_spec hpair
    exact h.append (by omega) hlt
  | case2 | case3 | case6 | case8 | case10 => simp at hread

theorem isAddress_of_filled? {read : List Nat × Option Nat} (h : Fits read.1)
    (hfilled : filled? read = some groups) : IsAddress groups := by
  obtain ⟨done, gap⟩ := read
  have hle : done.length ≤ 8 := h.length_le
  cases gap with
  | none =>
    rw [filled?, Option.ite_none_right_eq_some] at hfilled
    obtain ⟨hlen, hdone⟩ := hfilled
    obtain rfl := Option.some.inj hdone
    exact ⟨hlen, h.lt⟩
  | some g =>
    obtain rfl := Option.some.inj hfilled
    constructor
    · simp only [List.length_append, List.length_take, List.length_replicate, List.length_drop]
      omega
    · simp only [List.mem_append, List.mem_replicate]
      rintro n ((hn | ⟨-, rfl⟩) | hn)
      · exact h.lt n (List.mem_of_mem_take hn)
      · decide
      · exact h.lt n (List.mem_of_mem_drop hn)

/-- What is read is an address. -/
theorem isAddress_of_ipv6? (h : ipv6? t = some groups) : IsAddress groups := by
  rw [ipv6?_eq_bind, Option.bind_eq_some_iff] at h
  obtain ⟨read, hread, hfilled⟩ := h
  refine isAddress_of_filled? ?_ hfilled
  unfold opened? at hread
  split at hread
  case h_1 => exact fits_of_groupsFrom? ⟨by decide, by simp⟩ hread
  case h_5 => exact fits_of_groupsFrom? ⟨by decide, by simp⟩ hread
  all_goals simp at hread

/-- The characters of an address. -/
theorem mem_showIpv6 (hc : c ∈ showIpv6 groups) : c = ':' ∨ Digit.isBelow 16 c = true := by
  have hshow {gs : List Nat} (hc : c ∈ showGroups gs) : c = ':' ∨ Digit.isBelow 16 c = true := by
    refine or_iff_not_imp_left.2 fun hne => ?_
    obtain ⟨digits, hdigits, hmem⟩ := Text.mem_of_mem_join hc hne
    obtain ⟨g, -, rfl⟩ := List.mem_map.1 hdigits
    exact Digit.isBelow_of_mem_toDigits (by decide) (by decide) hmem
  rw [showIpv6] at hc
  split at hc
  · simp only [List.mem_append, List.mem_cons, List.not_mem_nil, or_false, or_self] at hc
    rcases hc with (hc | rfl) | hc
    · exact hshow hc
    · exact .inl rfl
    · exact hshow hc
  · exact hshow hc

end DefinitionServer.Address
