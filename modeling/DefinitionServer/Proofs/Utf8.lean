import DefinitionServer.Text.Utf8

/-!
# UTF-8 read back

Reading bytes as UTF-8 undoes writing a text, and every piece that reading finds is accounted for
by bytes of its own. A text is therefore read back from exactly one string of bytes, and no
ill-formed stretch passes for a character.

## Main definitions

* `Cut`: bytes, and the pieces that they are cut into.
* `Completes`, `Begun`: what reading knows between two bytes of a character.
-/
namespace DefinitionServer.Text.Utf8

/-! ## The bytes of one character -/

theorem val_ofNat {v : Nat} (h : v.isValidChar) : (Char.ofNat v).val.toNat = v := by
  have hchar : Char.ofNat v = Char.ofNatAux v h := dif_pos h
  rw [hchar]
  rfl

theorem byte_eq {b : UInt8} {n : Nat} (h : b.toNat = n) : UInt8.ofNat n = b := by
  rw [← h, UInt8.ofNat_toNat]

theorem encodeChar_one {a : UInt8} (ha : a.toNat < 0x80) :
    String.utf8EncodeChar (Char.ofNat a.toNat) = [a] := by
  have hv : a.toNat.isValidChar := Or.inl (by omega)
  simp only [String.utf8EncodeChar, val_ofNat hv]
  rw [if_pos (by omega), byte_eq rfl]

/-- A character of two bytes is the one whose code their bits give. -/
theorem encodeChar_two {a b : UInt8} (ha : 0xC2 ≤ a.toNat) (ha' : a.toNat < 0xE0)
    (hb : 0x80 ≤ b.toNat) (hb' : b.toNat ≤ 0xBF) :
    String.utf8EncodeChar (Char.ofNat ((a.toNat - 0xC0) * 64 + (b.toNat - 0x80))) = [a, b] := by
  have hv : ((a.toNat - 0xC0) * 64 + (b.toNat - 0x80)).isValidChar := Or.inl (by omega)
  simp only [String.utf8EncodeChar, val_ofNat hv]
  rw [if_neg (by omega), if_pos (by omega), byte_eq (b := a) (by omega),
    byte_eq (b := b) (by omega)]

theorem encodeChar_three {a b c : UInt8} (ha : 0xE0 ≤ a.toNat) (ha' : a.toNat < 0xF0)
    (hb : (if a.toNat = 0xE0 then 0xA0 else 0x80) ≤ b.toNat)
    (hb' : b.toNat ≤ if a.toNat = 0xED then 0x9F else 0xBF)
    (hc : 0x80 ≤ c.toNat) (hc' : c.toNat ≤ 0xBF) :
    String.utf8EncodeChar (Char.ofNat
      (((a.toNat - 0xE0) * 64 + (b.toNat - 0x80)) * 64 + (c.toNat - 0x80))) = [a, b, c] := by
  split at hb <;> split at hb'
  all_goals
    have hv : (((a.toNat - 0xE0) * 64 + (b.toNat - 0x80)) * 64 + (c.toNat - 0x80)).isValidChar := by
      simp only [Nat.isValidChar]
      omega
    simp only [String.utf8EncodeChar, val_ofNat hv]
    rw [if_neg (by omega), if_neg (by omega), if_pos (by omega), byte_eq (b := a) (by omega),
      byte_eq (b := b) (by omega), byte_eq (b := c) (by omega)]

theorem encodeChar_four {a b c d : UInt8} (ha : 0xF0 ≤ a.toNat) (ha' : a.toNat ≤ 0xF4)
    (hb : (if a.toNat = 0xF0 then 0x90 else 0x80) ≤ b.toNat)
    (hb' : b.toNat ≤ if a.toNat = 0xF4 then 0x8F else 0xBF)
    (hc : 0x80 ≤ c.toNat) (hc' : c.toNat ≤ 0xBF) (hd : 0x80 ≤ d.toNat) (hd' : d.toNat ≤ 0xBF) :
    String.utf8EncodeChar (Char.ofNat
      ((((a.toNat - 0xF0) * 64 + (b.toNat - 0x80)) * 64 + (c.toNat - 0x80)) * 64 +
        (d.toNat - 0x80))) = [a, b, c, d] := by
  split at hb <;> split at hb'
  all_goals
    have hv : ((((a.toNat - 0xF0) * 64 + (b.toNat - 0x80)) * 64 + (c.toNat - 0x80)) * 64 +
        (d.toNat - 0x80)).isValidChar := by
      simp only [Nat.isValidChar]
      omega
    simp only [String.utf8EncodeChar, val_ofNat hv]
    rw [if_neg (by omega), if_neg (by omega), if_neg (by omega), byte_eq (b := a) (by omega),
      byte_eq (b := b) (by omega), byte_eq (b := c) (by omega), byte_eq (b := d) (by omega)]


/-! ## Reading -/

theorem begin_ascii {b : UInt8} (h : b.toNat < 0x80) :
    begin b = ([.char (Char.ofNat b.toNat)], .between) := by
  simp [begin, h]

theorem begin_two {b : UInt8} (h : 0xC2 ≤ b.toNat) (h' : b.toNat < 0xE0) :
    begin b = ([], .within 1 1 0x80 0xBF (b.toNat - 0xC0)) := by
  simp only [begin]
  rw [if_neg (by omega), if_neg (by omega), if_pos h']

theorem begin_three {b : UInt8} (h : 0xE0 ≤ b.toNat) (h' : b.toNat < 0xF0) :
    begin b = ([], .within 1 2 (if b.toNat = 0xE0 then 0xA0 else 0x80)
      (if b.toNat = 0xED then 0x9F else 0xBF) (b.toNat - 0xE0)) := by
  simp only [begin]
  rw [if_neg (by omega), if_neg (by omega), if_neg (by omega)]
  by_cases h0 : b.toNat = 0xE0
  · simp [h0]
  · by_cases hD : b.toNat = 0xED
    · simp [hD]
    · simp [h0, hD, h']

theorem begin_four {b : UInt8} (h : 0xF0 ≤ b.toNat) (h' : b.toNat ≤ 0xF4) :
    begin b = ([], .within 1 3 (if b.toNat = 0xF0 then 0x90 else 0x80)
      (if b.toNat = 0xF4 then 0x8F else 0xBF) (b.toNat - 0xF0)) := by
  simp only [begin]
  rw [if_neg (by omega), if_neg (by omega), if_neg (by omega), if_neg (by omega), if_neg (by omega),
    if_neg (by omega)]
  by_cases h0 : b.toNat = 0xF0
  · simp [h0]
  · by_cases h4 : b.toNat = 0xF4
    · simp [h4]
    · have : b.toNat < 0xF4 := by omega
      simp [h0, h4, this]

theorem begin_illFormed {b : UInt8} (h : 0x80 ≤ b.toNat)
    (h' : b.toNat < 0xC2 ∨ 0xF4 < b.toNat) : begin b = ([.illFormed 1], .between) := by
  simp only [begin]
  rw [if_neg (by omega)]
  rcases h' with h' | h'
  · rw [if_pos h']
  · rw [if_neg (by omega), if_neg (by omega), if_neg (by omega), if_neg (by omega),
      if_neg (by omega), if_neg (by omega), if_neg (by omega), if_neg (by omega)]

theorem piecesFrom_last (seen : Nat) {lo hi b : UInt8} (code : Nat) (bs : Bytes)
    (h : lo ≤ b ∧ b ≤ hi) :
    piecesFrom (.within seen 1 lo hi code) (b :: bs) =
      .char (Char.ofNat (code * 64 + (b.toNat - 0x80))) :: piecesFrom .between bs := by
  simp [piecesFrom, step, h]

theorem piecesFrom_next (seen left : Nat) {lo hi b : UInt8} (code : Nat) (bs : Bytes)
    (h : lo ≤ b ∧ b ≤ hi) :
    piecesFrom (.within seen (left + 2) lo hi code) (b :: bs) =
      piecesFrom (.within (seen + 1) (left + 1) 0x80 0xBF (code * 64 + (b.toNat - 0x80))) bs := by
  simp [piecesFrom, step, h]

theorem toNat_continuation (n : Nat) : (UInt8.ofNat (n % 0x40 + 0x80)).toNat = n % 64 + 0x80 :=
  UInt8.toNat_ofNat_of_lt' (by simp [UInt8.size]; omega)

theorem continuation_range (n : Nat) : (0x80 : UInt8) ≤ UInt8.ofNat (n % 0x40 + 0x80) ∧
    UInt8.ofNat (n % 0x40 + 0x80) ≤ (0xBF : UInt8) := by
  simp only [UInt8.le_iff_toNat_le, toNat_continuation]
  exact ⟨by simp, by simp; omega⟩

/-- A character is read back as one piece, whatever follows it. -/
theorem piecesFrom_encodeChar (c : Char) (bs : Bytes) :
    piecesFrom .between (String.utf8EncodeChar c ++ bs) = .char c :: piecesFrom .between bs := by
  have hc : Char.ofNat c.val.toNat = c := Char.ofNat_toNat c
  have hv := c.valid
  simp only [UInt32.isValidChar, Nat.isValidChar] at hv
  unfold String.utf8EncodeChar
  generalize c.val.toNat = v at hc hv
  simp only
  split
  case isTrue h =>
    have h1 : (UInt8.ofNat v).toNat = v := UInt8.toNat_ofNat_of_lt' (by simp [UInt8.size]; omega)
    rw [List.cons_append, List.nil_append, piecesFrom, step, begin_ascii (by omega), h1, hc]
    rfl
  split
  case isTrue h =>
    have h1 : (UInt8.ofNat (v / 64 % 0x20 + 0xC0)).toNat = v / 64 + 0xC0 := by
      rw [UInt8.toNat_ofNat_of_lt' (by simp [UInt8.size]; omega)]; omega
    simp only [List.cons_append, List.nil_append]
    rw [piecesFrom, step, begin_two (by omega) (by omega), List.nil_append,
      piecesFrom_last _ _ _ (continuation_range v), h1, toNat_continuation,
      show (v / 64 + 0xC0 - 0xC0) * 64 + (v % 64 + 0x80 - 0x80) = v by omega, hc]
  split
  case isTrue h =>
    have h1 : (UInt8.ofNat (v / 4096 % 0x10 + 0xE0)).toNat = v / 4096 + 0xE0 := by
      rw [UInt8.toNat_ofNat_of_lt' (by simp [UInt8.size]; omega)]; omega
    simp only [List.cons_append, List.nil_append]
    rw [piecesFrom, step, begin_three (by omega) (by omega), List.nil_append,
      piecesFrom_next _ _ _ _ ?_, piecesFrom_last _ _ _ (continuation_range v), h1,
      toNat_continuation, toNat_continuation,
      show ((v / 4096 + 0xE0 - 0xE0) * 64 + (v / 64 % 64 + 0x80 - 0x80)) * 64 +
        (v % 64 + 0x80 - 0x80) = v by omega, hc]
    simp only [UInt8.le_iff_toNat_le, toNat_continuation, h1]
    constructor
    · split
      · simp; omega
      · simp
    · split
      · simp; omega
      · simp; omega
  case isFalse h =>
    have h1 : (UInt8.ofNat (v / 262144 % 0x08 + 0xF0)).toNat = v / 262144 + 0xF0 := by
      rw [UInt8.toNat_ofNat_of_lt' (by simp [UInt8.size]; omega)]; omega
    simp only [List.cons_append, List.nil_append]
    rw [piecesFrom, step, begin_four (by omega) (by omega), List.nil_append,
      piecesFrom_next _ _ _ _ ?_, piecesFrom_next _ _ _ _ (continuation_range _),
      piecesFrom_last _ _ _ (continuation_range v), h1, toNat_continuation, toNat_continuation,
      toNat_continuation,
      show (((v / 262144 + 0xF0 - 0xF0) * 64 + (v / 4096 % 64 + 0x80 - 0x80)) * 64 +
        (v / 64 % 64 + 0x80 - 0x80)) * 64 + (v % 64 + 0x80 - 0x80) = v by omega, hc]
    simp only [UInt8.le_iff_toNat_le, toNat_continuation, h1]
    constructor
    · split
      · simp; omega
      · simp
    · split
      · simp; omega
      · simp; omega

/-! ## What the pieces are cut from -/

/-- Bytes and the pieces they are cut into. A character stands for its own bytes. -/
inductive Cut : Bytes → List Piece → Prop
  | nil : Cut [] []
  | char (c : Char) {bs : Bytes} {ps : List Piece} :
      Cut bs ps → Cut (String.utf8EncodeChar c ++ bs) (.char c :: ps)
  | illFormed {read bs : Bytes} {ps : List Piece} :
      read ≠ [] → Cut bs ps → Cut (read ++ bs) (.illFormed read.length :: ps)
  | truncated {read : Bytes} : read ≠ [] → Cut read [.truncated read.length]

/-- However the bytes after `read` fill the places that are left, a character is spelled. -/
def Completes : Bytes → Nat → UInt8 → UInt8 → Nat → Prop
  | _, 0, _, _, _ => False
  | read, 1, lo, hi, code => ∀ b, lo ≤ b → b ≤ hi →
      String.utf8EncodeChar (Char.ofNat (code * 64 + (b.toNat - 0x80))) = read ++ [b]
  | read, left + 2, lo, hi, code => ∀ b, lo ≤ b → b ≤ hi →
      Completes (read ++ [b]) (left + 1) 0x80 0xBF (code * 64 + (b.toNat - 0x80))

/-- `read` are the bytes since the last whole piece. -/
def Begun (read : Bytes) : Progress → Prop
  | .between => read = []
  | .within seen left lo hi code => read ≠ [] ∧ read.length = seen ∧ Completes read left lo hi code

/-- A first byte is a whole piece or begins a character. -/
theorem begin_cases (b : UInt8) :
    (∃ c, begin b = ([.char c], .between) ∧ String.utf8EncodeChar c = [b]) ∨
    begin b = ([.illFormed 1], .between) ∨
    (∃ s, begin b = ([], s) ∧ Begun [b] s) := by
  rcases Nat.lt_or_ge b.toNat 0x80 with h | h
  · exact .inl ⟨_, begin_ascii h, encodeChar_one h⟩
  rcases Nat.lt_or_ge b.toNat 0xC2 with h2 | h2
  · exact .inr (.inl (begin_illFormed h (.inl h2)))
  rcases Nat.lt_or_ge b.toNat 0xE0 with h3 | h3
  · refine .inr (.inr ⟨_, begin_two h2 h3, by simp, rfl, ?_⟩)
    intro x hlo hhi
    exact encodeChar_two h2 h3 hlo hhi
  rcases Nat.lt_or_ge b.toNat 0xF0 with h4 | h4
  · refine .inr (.inr ⟨_, begin_three h3 h4, by simp, rfl, ?_⟩)
    intro x hlo hhi y hlo' hhi'
    refine encodeChar_three h3 h4 ?_ ?_ hlo' hhi'
    · rw [UInt8.le_iff_toNat_le] at hlo; split <;> simp_all
    · rw [UInt8.le_iff_toNat_le] at hhi; split <;> simp_all
  rcases Nat.lt_or_ge 0xF4 b.toNat with h5 | h5
  · exact .inr (.inl (begin_illFormed h (.inr h5)))
  · refine .inr (.inr ⟨_, begin_four h4 h5, by simp, rfl, ?_⟩)
    intro x hlo hhi y hlo' hhi' z hlo'' hhi''
    refine encodeChar_four h4 h5 ?_ ?_ hlo' hhi' hlo'' hhi''
    · rw [UInt8.le_iff_toNat_le] at hlo; split <;> simp_all
    · rw [UInt8.le_iff_toNat_le] at hhi; split <;> simp_all

/-- Reading `b` between two pieces, when the pieces of what follows are cut right. -/
theorem cut_begin {b : UInt8} {bs : Bytes}
    (ih : ∀ read s, Begun read s → Cut (read ++ bs) (piecesFrom s bs)) :
    Cut (b :: bs) ((begin b).1 ++ piecesFrom (begin b).2 bs) := by
  rcases begin_cases b with ⟨c, h, hc⟩ | h | ⟨s, h, hs⟩
  · rw [h]
    simpa [hc] using Cut.char c (ih [] .between rfl)
  · rw [h]
    exact (Cut.illFormed (List.cons_ne_nil b []) (ih [] .between rfl) : Cut ([b] ++ bs) _)
  · rw [h]
    exact ih [b] s hs

theorem cut_piecesFrom (bs : Bytes) :
    ∀ read s, Begun read s → Cut (read ++ bs) (piecesFrom s bs) := by
  induction bs with
  | nil =>
    rintro read (_ | ⟨seen, left, lo, hi, code⟩) h
    · rw [show read = [] from h]
      exact .nil
    · obtain ⟨hne, rfl, -⟩ := h
      rw [List.append_nil]
      exact .truncated hne
  | cons b bs ih =>
    rintro read (_ | ⟨seen, left, lo, hi, code⟩) h
    · rw [show read = [] from h]
      exact cut_begin ih
    · obtain ⟨hne, rfl, hc⟩ := h
      by_cases hb : lo ≤ b ∧ b ≤ hi
      · match left, hc with
        | 1, hc =>
          rw [piecesFrom_last _ _ _ hb, List.append_cons, ← hc b hb.1 hb.2]
          exact Cut.char _ (ih [] .between rfl)
        | left + 2, hc =>
          rw [piecesFrom_next _ _ _ _ hb, List.append_cons]
          exact ih _ _ ⟨by simp, by simp, hc b hb.1 hb.2⟩
      · rw [piecesFrom, step, if_neg hb]
        exact Cut.illFormed hne (cut_begin ih)

/-- **The pieces account for all bytes.** -/
theorem cut_pieces (bs : Bytes) : Cut bs (pieces bs) := cut_piecesFrom bs [] .between rfl

/-- Every piece takes a byte. -/
theorem Cut.length_le {bs : Bytes} {ps : List Piece} (h : Cut bs ps) : ps.length ≤ bs.length := by
  induction h with
  | nil => exact Nat.le_refl _
  | char c _ ih =>
    have := c.utf8Size_pos
    simp only [List.length_append, List.length_cons, String.length_utf8EncodeChar]
    omega
  | illFormed hne _ ih =>
    have := List.length_pos_iff.2 hne
    simp only [List.length_append, List.length_cons]
    omega
  | truncated hne => exact List.length_pos_iff.2 hne

/-- Characters alone are cut from their own bytes. -/
theorem Cut.eq_encode {bs : Bytes} {t : Text} (h : Cut bs (t.map .char)) : bs = encode t := by
  induction t generalizing bs with
  | nil => cases h; rfl
  | cons c t ih =>
    cases h with
    | char _ h => rw [ih h]; rfl

/-- A character that is read stands in the bytes. -/
theorem Cut.subset_of_char {bs : Bytes} {ps : List Piece} (h : Cut bs ps) {c : Char}
    (hc : .char c ∈ ps) : String.utf8EncodeChar c ⊆ bs := by
  induction h with
  | nil => simp at hc
  | char d _ ih =>
    rcases List.mem_cons.1 hc with hd | hc
    · cases hd
      exact List.subset_append_left _ _
    · exact List.subset_append_of_subset_right _ (ih hc)
  | illFormed _ _ ih =>
    exact List.subset_append_of_subset_right _ (ih (by simpa using hc))
  | truncated _ => simp at hc

/-! ## Round trips -/

@[simp] theorem encode_nil : encode [] = [] := rfl
@[simp] theorem encode_cons (c : Char) (t : Text) :
    encode (c :: t) = String.utf8EncodeChar c ++ encode t := rfl
@[simp] theorem encode_append (s t : Text) : encode (s ++ t) = encode s ++ encode t :=
  List.flatMap_append

/-- A text at the head of bytes is read as its characters. -/
theorem pieces_encode_append (t : Text) (bs : Bytes) :
    pieces (encode t ++ bs) = t.map .char ++ pieces bs := by
  induction t with
  | nil => rfl
  | cons c t ih =>
    rw [encode_cons, List.append_assoc, pieces, piecesFrom_encodeChar, List.map_cons,
      List.cons_append, ← ih]
    rfl

theorem pieces_encode (t : Text) : pieces (encode t) = t.map .char := by
  simpa [pieces, piecesFrom, finish] using pieces_encode_append t []

theorem assemble_map_char (i : Nat) (t : Text) : assemble i (t.map .char) = .ok t := by
  induction t generalizing i with
  | nil => rfl
  | cons c t ih => simp [assemble, ih, Except.map]

theorem eq_map_char_of_assemble {i : Nat} {ps : List Piece} {t : Text}
    (h : assemble i ps = .ok t) : ps = t.map .char := by
  induction ps generalizing i t with
  | nil => cases h; rfl
  | cons p ps ih =>
    cases p with
    | char c =>
      rw [assemble] at h
      cases ha : assemble (i + c.utf8Size) ps with
      | error e => simp [ha, Except.map] at h
      | ok u =>
        simp only [ha, Except.map, Except.ok.injEq] at h
        rw [← h, ih ha]
        rfl
    | illFormed w => simp [assemble] at h
    | truncated w => simp [assemble] at h

/-- **Bytes are a text exactly when they are its encoding.** -/
theorem decode?_eq_ok_iff {bs : Bytes} {t : Text} : decode? bs = .ok t ↔ bs = encode t := by
  constructor
  · intro h
    have := cut_pieces bs
    rw [eq_map_char_of_assemble h] at this
    exact this.eq_encode
  · rintro rfl
    rw [decode?, pieces_encode, assemble_map_char]

@[simp] theorem decode?_encode (t : Text) : decode? (encode t) = .ok t :=
  decode?_eq_ok_iff.2 rfl

@[simp] theorem decodeLossy_encode (t : Text) : decodeLossy (encode t) = t := by
  rw [decodeLossy, pieces_encode, List.map_map]
  exact List.map_id t

theorem encode_injective : Function.Injective encode := by
  intro s t h
  rw [← decodeLossy_encode s, h, decodeLossy_encode]

theorem length_decodeLossy_le (bs : Bytes) : (decodeLossy bs).length ≤ bs.length := by
  rw [decodeLossy, List.length_map]
  exact (cut_pieces bs).length_le

/-- Bytes that show no replacement character are the encoding of what they show. -/
theorem eq_encode_decodeLossy {bs : Bytes} (h : replacement ∉ decodeLossy bs) :
    bs = encode (decodeLossy bs) := by
  have hps : pieces bs = (decodeLossy bs).map .char := by
    rw [decodeLossy, List.map_map]
    refine (List.map_id _).symm.trans (List.map_congr_left fun p hp => ?_)
    cases p with
    | char c => rfl
    | illFormed w => exact absurd (List.mem_map.2 ⟨_, hp, rfl⟩) h
    | truncated w => exact absurd (List.mem_map.2 ⟨_, hp, rfl⟩) h
  have := cut_pieces bs
  rw [hps] at this
  exact this.eq_encode

/-! ## ASCII -/

theorem encodeChar_ascii {c : Char} (h : c.toNat < 0x80) :
    String.utf8EncodeChar c = [UInt8.ofNat c.toNat] := by
  unfold String.utf8EncodeChar
  exact if_pos (Nat.le_of_lt_succ h)

/-- Past ASCII every byte of a character is. -/
theorem le_of_mem_encodeChar {c : Char} (h : 0x80 ≤ c.toNat) {b : UInt8}
    (hb : b ∈ String.utf8EncodeChar c) : 0x80 ≤ b.toNat := by
  have hv := c.valid
  simp only [UInt32.isValidChar, Nat.isValidChar] at hv
  unfold String.utf8EncodeChar at hb
  change 0x80 ≤ c.val.toNat at h
  generalize c.val.toNat = v at h hv hb
  have htail : ∀ n, n < 256 → 0x80 ≤ n → b = UInt8.ofNat n → 0x80 ≤ b.toNat := by
    rintro n hn hk rfl
    rw [UInt8.toNat_ofNat_of_lt' hn]
    exact hk
  simp only at hb
  rw [if_neg (by omega)] at hb
  split at hb
  · simp only [List.mem_cons, List.not_mem_nil, or_false] at hb
    rcases hb with hb | hb <;> exact htail _ (by omega) (by omega) hb
  split at hb
  · simp only [List.mem_cons, List.not_mem_nil, or_false] at hb
    rcases hb with hb | hb | hb <;> exact htail _ (by omega) (by omega) hb
  · simp only [List.mem_cons, List.not_mem_nil, or_false] at hb
    rcases hb with hb | hb | hb | hb <;> exact htail _ (by omega) (by omega) hb

/-- The byte of an ASCII character belongs to no other character. -/
theorem mem_encodeChar_ascii {c d : Char} (h : c.toNat < 0x80) :
    UInt8.ofNat c.toNat ∈ String.utf8EncodeChar d ↔ c = d := by
  have hc : (UInt8.ofNat c.toNat).toNat = c.toNat :=
    UInt8.toNat_ofNat_of_lt' (by simp [UInt8.size]; omega)
  constructor
  · intro hb
    rcases Nat.lt_or_ge d.toNat 0x80 with hd | hd
    · rw [encodeChar_ascii hd, List.mem_singleton] at hb
      have := congrArg UInt8.toNat hb
      rw [hc, UInt8.toNat_ofNat_of_lt' (by simp [UInt8.size]; omega)] at this
      exact Char.toNat_inj.1 this
    · have := le_of_mem_encodeChar hd hb
      omega
  · rintro rfl
    simp [encodeChar_ascii h]

/-- An ASCII character stands in a text exactly when its byte stands in the encoding. -/
theorem mem_encode_ascii {c : Char} (h : c.toNat < 0x80) {t : Text} :
    UInt8.ofNat c.toNat ∈ encode t ↔ c ∈ t := by
  rw [encode, List.mem_flatMap]
  constructor
  · rintro ⟨d, hd, hb⟩
    rwa [(mem_encodeChar_ascii h).1 hb]
  · intro hc
    exact ⟨c, hc, (mem_encodeChar_ascii h).2 rfl⟩

/-- The text before an ASCII character is encoded as what stands before its byte. -/
theorem takeWhile_encode_ascii {c : Char} (h : c.toNat < 0x80) (t : Text) :
    (encode t).takeWhile (· ≠ UInt8.ofNat c.toNat) = encode (t.takeWhile (· ≠ c)) := by
  induction t with
  | nil => rfl
  | cons d t ih =>
    rw [encode_cons]
    by_cases hd : d = c
    · rw [hd, encodeChar_ascii h]
      simp
    · have hbytes : ∀ b ∈ String.utf8EncodeChar d, decide (b ≠ UInt8.ofNat c.toNat) = true := by
        intro b hb
        rw [decide_eq_true_eq]
        rintro rfl
        exact hd ((mem_encodeChar_ascii h).1 hb).symm
      rw [List.takeWhile_append_of_pos hbytes, ih, List.takeWhile_cons_of_pos (by simpa using hd),
        encode_cons]

/-- The character of an ASCII byte. -/
def asciiChar (b : UInt8) : Char := Char.ofNat b.toNat

theorem encode_map_asciiChar {bs : Bytes} (h : ∀ b ∈ bs, b.toNat < 0x80) :
    encode (bs.map asciiChar) = bs := by
  induction bs with
  | nil => rfl
  | cons b bs ih =>
    rw [List.map_cons, encode_cons, asciiChar, encodeChar_one (h b (by simp)),
      ih fun b hb => h b (by simp [hb])]
    rfl

/-- A text ends in an ASCII character exactly when its encoding ends in that byte. -/
theorem getLast?_encode_ascii {c : Char} (h : c.toNat < 0x80) {t : Text} :
    (encode t).getLast? = some (UInt8.ofNat c.toNat) ↔ t.getLast? = some c := by
  rcases List.eq_nil_or_concat t with rfl | ⟨u, d, rfl⟩
  · simp
  have hlast : (encode (u.concat d)).getLast? = (String.utf8EncodeChar d).getLast? := by
    rw [List.concat_eq_append, encode_append, encode_cons, encode_nil, List.append_nil,
      List.getLast?_append, List.getLast?_eq_some_getLast String.utf8EncodeChar_ne_nil]
    rfl
  rw [hlast, List.concat_eq_append, List.getLast?_concat, Option.some_inj]
  constructor
  · intro hb
    exact ((mem_encodeChar_ascii h).1 (List.mem_of_getLast? hb)).symm
  · rintro rfl
    simp [encodeChar_ascii h]

/-- Reading shows an ASCII character only where its byte stands. -/
theorem mem_of_mem_decodeLossy {c : Char} (h : c.toNat < 0x80) {bs : Bytes}
    (hc : c ∈ decodeLossy bs) : UInt8.ofNat c.toNat ∈ bs := by
  obtain ⟨p, hp, hshown⟩ := List.mem_map.1 hc
  have hrep : replacement ≠ c := by rintro rfl; simp [replacement] at h
  cases p with
  | char d =>
    rw [Piece.shown] at hshown
    exact (cut_pieces bs).subset_of_char hp ((mem_encodeChar_ascii h).2 hshown.symm)
  | illFormed w => exact absurd hshown hrep
  | truncated w => exact absurd hshown hrep

theorem lf_mem_encode {t : Text} : Bytes.lf ∈ encode t ↔ '\n' ∈ t :=
  mem_encode_ascii (c := '\n') (by decide)

theorem getLast?_encode_cr {t : Text} :
    (encode t).getLast? = some Bytes.cr ↔ t.getLast? = some '\r' :=
  getLast?_encode_ascii (c := '\r') (by decide)

theorem getLast?_encode_lf {t : Text} :
    (encode t).getLast? = some Bytes.lf ↔ t.getLast? = some '\n' :=
  getLast?_encode_ascii (c := '\n') (by decide)

theorem lf_mem_of_mem_decodeLossy {bs : Bytes} (h : '\n' ∈ decodeLossy bs) : Bytes.lf ∈ bs :=
  mem_of_mem_decodeLossy (c := '\n') (by decide) h

end DefinitionServer.Text.Utf8
