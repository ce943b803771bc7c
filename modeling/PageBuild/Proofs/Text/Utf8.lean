import PageBuild.Proofs.Session.Run
import PageBuild.Text.Utf8

/-! Decoding undoes encoding, and decodes nothing else: the bytes that have a text are those that
the text is encoded by. -/
namespace PageBuild.Utf8

variable {pos payload missing low high n : Nat} {c : Char} {bytes rest : List UInt8}
  {more : List Piece} {text : List Char}

/-- The bytes that complete a sequence to a character, from its payload so far, how many bytes are
missing and the bounds of the next one. -/
inductive Completes : (payload missing low high : Nat) → List UInt8 → Char → Prop
  | last {payload low high : Nat} {b : UInt8} (above : low ≤ b.toNat) (below : b.toNat ≤ high) :
    Completes payload 1 low high [b] (Char.ofNat (payload * 64 + (b.toNat - 0x80)))
  | more {payload missing low high : Nat} {b : UInt8} {bytes : List UInt8} {c : Char}
    (above : low ≤ b.toNat) (below : b.toNat ≤ high) (some : 1 ≤ missing)
    (later : Completes (payload * 64 + (b.toNat - 0x80)) missing 0x80 0xBF bytes c) :
    Completes payload (missing + 1) low high (b :: bytes) c

theorem scan_of_completes (h : Completes payload missing low high bytes c) (first count : Nat)
    (byte : UInt8) :
    scan pos (some ⟨payload, missing, low, high, first, count, byte⟩) (bytes ++ rest) =
      .char c :: scan (pos + bytes.length) none rest := by
  induction h generalizing pos count with
  | last above below => simp [scan, step, above, below]
  | @more payload missing low high b bytes c above below some later ih =>
    have open' : ¬ missing + 1 ≤ 1 := by omega
    rw [List.cons_append, scan, step, if_pos (by simp [above, below])]
    simp only [if_neg open', Nat.add_sub_cancel]
    rw [List.nil_append, ih, List.length_cons, Nat.add_assoc, Nat.add_comm 1]

/-- Where a scan emits a character before anything else, the bytes start with those of it. -/
theorem exists_completes_of_scan {p : Partial} (left : 1 ≤ p.missing)
    (h : scan pos (some p) bytes = .char c :: more) :
    ∃ front rest, bytes = front ++ rest ∧
      Completes p.payload p.missing p.low p.high front c ∧
      scan (pos + front.length) none rest = more := by
  induction bytes generalizing pos p with
  | nil => simp [scan, Partial.invalid] at h
  | cons b bytes ih =>
    rw [scan, step] at h
    by_cases bounds : (p.low ≤ b.toNat && b.toNat ≤ p.high) = true
    · rw [if_pos bounds] at h
      rw [Bool.and_eq_true, decide_eq_true_eq, decide_eq_true_eq] at bounds
      by_cases last : p.missing ≤ 1
      · obtain one : p.missing = 1 := by omega
        simp only [last, if_true, List.cons_append, List.nil_append, List.cons.injEq,
          Piece.char.injEq] at h
        obtain ⟨rfl, later⟩ := h
        exact ⟨[b], bytes, rfl, one ▸ .last bounds.1 bounds.2, later⟩
      · simp only [last, if_false, List.nil_append] at h
        obtain ⟨front, rest, rfl, completes, later⟩ := ih (by dsimp only; omega) h
        refine ⟨b :: front, rest, rfl, ?_, ?_⟩
        · have split : p.missing = p.missing - 1 + 1 := by omega
          rw [split]
          exact .more bounds.1 bounds.2 (by omega) completes
        · rw [← later, List.length_cons, Nat.add_assoc, Nat.add_comm 1]
    · rw [if_neg bounds] at h
      simp [Partial.invalid] at h

theorem toNat_ofNat (h : n < 256) : (UInt8.ofNat n).toNat = n := by
  simpa using Nat.mod_eq_of_lt h

theorem ofNat_eq {b : UInt8} (h : n = b.toNat) : UInt8.ofNat n = b := by
  rw [h, UInt8.ofNat_toNat]

theorem encodeChar_eq (c : Char) : String.utf8EncodeChar c =
    if c.toNat ≤ 0x7F then [.ofNat c.toNat]
    else if c.toNat ≤ 0x7FF then
      [.ofNat (c.toNat / 64 % 0x20 + 0xC0), .ofNat (c.toNat % 0x40 + 0x80)]
    else if c.toNat ≤ 0xFFFF then
      [.ofNat (c.toNat / 4096 % 0x10 + 0xE0), .ofNat (c.toNat / 64 % 0x40 + 0x80),
        .ofNat (c.toNat % 0x40 + 0x80)]
    else
      [.ofNat (c.toNat / 262144 % 0x08 + 0xF0), .ofNat (c.toNat / 4096 % 0x40 + 0x80),
        .ofNat (c.toNat / 64 % 0x40 + 0x80), .ofNat (c.toNat % 0x40 + 0x80)] :=
  rfl

/-- A first byte of two, three or four, with its payload. The bounds of the next byte keep out what
has a shorter form, surrogates, and what is no character. -/
theorem lead?_cases {a : UInt8} (lead : lead? a = some (payload, missing, low, high)) :
    0x80 ≤ low ∧ high ≤ 0xBF ∧
    (missing = 1 ∧ a.toNat = payload + 0xC0 ∧ 2 ≤ payload ∧ payload < 0x20 ∨
      missing = 2 ∧ a.toNat = payload + 0xE0 ∧ payload < 0x10 ∧ (payload = 0 → 0xA0 ≤ low) ∧
        (payload = 0xD → high ≤ 0x9F) ∨
      missing = 3 ∧ a.toNat = payload + 0xF0 ∧ payload < 5 ∧ (payload = 0 → 0x90 ≤ low) ∧
        (payload = 4 → high ≤ 0x8F)) := by
  unfold lead? at lead
  dsimp only at lead
  repeat' split at lead
  all_goals first
  | contradiction
  | simp only [Option.some.injEq, Prod.mk.injEq] at lead
    omega

theorem toNat_char (hc : c = Char.ofNat n) (valid : n < 0xD800 ∨ 0xDFFF < n ∧ n < 0x110000) :
    c.toNat = n := by
  rw [hc, Char.ofNat, dif_pos valid]
  rfl

namespace Completes

theorem of_one (h : Completes payload 1 low high bytes c) : ∃ b, bytes = [b] ∧ low ≤ b.toNat ∧
    b.toNat ≤ high ∧ c = Char.ofNat (payload * 64 + (b.toNat - 0x80)) := by
  cases h with
  | last above below => exact ⟨_, rfl, above, below, rfl⟩
  | more above below some later => omega

theorem of_more (h : Completes payload (missing + 2) low high bytes c) :
    ∃ b rest, bytes = b :: rest ∧ low ≤ b.toNat ∧ b.toNat ≤ high ∧
      Completes (payload * 64 + (b.toNat - 0x80)) (missing + 1) 0x80 0xBF rest c := by
  cases h with
  | more above below some later => exact ⟨_, _, rfl, above, below, later⟩

end Completes

/-- The bytes that a character is encoded by are those that complete it. -/
theorem encodeChar_of_completes {a : UInt8} (lead : lead? a = some (payload, missing, low, high))
    (h : Completes payload missing low high bytes c) : String.utf8EncodeChar c = a :: bytes := by
  obtain ⟨hlow, hhigh, ⟨rfl, two⟩ | ⟨rfl, three⟩ | ⟨rfl, four⟩⟩ := lead?_cases lead
  · obtain ⟨b, rfl, above, below, hc⟩ := h.of_one
    have code := toNat_char hc (by omega)
    rw [encodeChar_eq, code, if_neg (by omega), if_pos (by omega), ofNat_eq (b := a) (by omega),
      ofNat_eq (b := b) (by omega)]
  · obtain ⟨b, bytes, rfl, above, below, h⟩ := h.of_more
    obtain ⟨d, rfl, above', below', hc⟩ := h.of_one
    have code := toNat_char hc (by omega)
    rw [encodeChar_eq, code, if_neg (by omega), if_neg (by omega), if_pos (by omega),
      ofNat_eq (b := a) (by omega), ofNat_eq (b := b) (by omega), ofNat_eq (b := d) (by omega)]
  · obtain ⟨b, bytes, rfl, above, below, h⟩ := h.of_more
    obtain ⟨d, bytes, rfl, above', below', h⟩ := h.of_more
    obtain ⟨e, rfl, above'', below'', hc⟩ := h.of_one
    have code := toNat_char hc (by omega)
    rw [encodeChar_eq, code, if_neg (by omega), if_neg (by omega), if_neg (by omega),
      ofNat_eq (b := a) (by omega), ofNat_eq (b := b) (by omega), ofNat_eq (b := d) (by omega),
      ofNat_eq (b := e) (by omega)]

/-! The first byte for a payload, and later bytes for six bits each. -/

theorem lead?_two {m : Nat} (h : 2 ≤ m ∧ m < 0x20) :
    lead? (.ofNat (m + 0xC0)) = some (m, 1, 0x80, 0xBF) := by
  have code := toNat_ofNat (n := m + 0xC0) (by omega)
  simp only [lead?, code]
  rw [if_neg (by omega), if_pos (by omega), Nat.add_sub_cancel]

theorem lead?_three {m : Nat} (h : m < 0x10) :
    lead? (.ofNat (m + 0xE0)) = some (m, 2, if m = 0 then 0xA0 else 0x80,
      if m = 0xD then 0x9F else 0xBF) := by
  have code := toNat_ofNat (n := m + 0xE0) (by omega)
  simp only [lead?, code]
  rw [if_neg (by omega), if_neg (by omega), if_pos (by omega), Nat.add_sub_cancel]
  simp

theorem lead?_four {m : Nat} (h : m < 5) :
    lead? (.ofNat (m + 0xF0)) = some (m, 3, if m = 0 then 0x90 else 0x80,
      if m = 4 then 0x8F else 0xBF) := by
  have code := toNat_ofNat (n := m + 0xF0) (by omega)
  simp only [lead?, code]
  rw [if_neg (by omega), if_neg (by omega), if_neg (by omega), if_pos (by omega),
    Nat.add_sub_cancel]
  simp

theorem Completes.last_ofNat {m : Nat} (bits : m < 0x40) (above : low ≤ m + 0x80)
    (below : m + 0x80 ≤ high) (hc : c.toNat = payload * 64 + m) :
    Completes payload 1 low high [.ofNat (m + 0x80)] c := by
  have code := toNat_ofNat (n := m + 0x80) (by omega)
  have same : c = Char.ofNat (payload * 64 + ((UInt8.ofNat (m + 0x80)).toNat - 0x80)) := by
    rw [code, Nat.add_sub_cancel, ← hc, Char.ofNat_toNat]
  rw [same]
  exact .last (by rwa [code]) (by rwa [code])

theorem Completes.more_ofNat {m : Nat} (bits : m < 0x40) (above : low ≤ m + 0x80)
    (below : m + 0x80 ≤ high)
    (later : Completes (payload * 64 + m) (missing + 1) 0x80 0xBF bytes c) :
    Completes payload (missing + 2) low high (.ofNat (m + 0x80) :: bytes) c := by
  have code := toNat_ofNat (n := m + 0x80) (by omega)
  refine .more (by rwa [code]) (by rwa [code]) (by omega) ?_
  rwa [code, Nat.add_sub_cancel]

/-- The first byte of a character beyond ASCII, and the bytes that complete it. -/
theorem exists_completes_encodeChar (h : 0x7F < c.toNat) :
    ∃ a bytes payload missing low high, String.utf8EncodeChar c = a :: bytes ∧
      0x80 ≤ a.toNat ∧ lead? a = some (payload, missing, low, high) ∧
      Completes payload missing low high bytes c := by
  have valid : c.toNat < 0xD800 ∨ 0xDFFF < c.toNat ∧ c.toNat < 0x110000 := c.valid
  rw [encodeChar_eq, if_neg (Nat.not_le.mpr h)]
  by_cases two : c.toNat ≤ 0x7FF
  · refine ⟨_, _, _, _, _, _, if_pos two, ?_, lead?_two (by omega),
      .last_ofNat (by omega) (by omega) (by omega) (by omega)⟩
    rw [toNat_ofNat (by omega)]
    omega
  · rw [if_neg two]
    by_cases three : c.toNat ≤ 0xFFFF
    · refine ⟨_, _, _, _, _, _, if_pos three, ?_, lead?_three (by omega),
        .more_ofNat (by omega) (by split <;> omega) (by split <;> omega)
          (.last_ofNat (by omega) (by omega) (by omega) (by omega))⟩
      rw [toNat_ofNat (by omega)]
      omega
    · refine ⟨_, _, _, _, _, _, if_neg three, ?_, lead?_four (by omega),
        .more_ofNat (by omega) (by split <;> omega) (by split <;> omega)
          (.more_ofNat (by omega) (by omega) (by omega)
            (.last_ofNat (by omega) (by omega) (by omega) (by omega)))⟩
      rw [toNat_ofNat (by omega)]
      omega

/-- A scan emits a character for the bytes that it is encoded by. -/
theorem scan_encodeChar (c : Char) (pos : Nat) (rest : List UInt8) :
    scan pos none (String.utf8EncodeChar c ++ rest) =
      .char c :: scan (pos + (String.utf8EncodeChar c).length) none rest := by
  by_cases ascii : c.toNat ≤ 0x7F
  · have code := toNat_ofNat (n := c.toNat) (by omega)
    have short : c.toNat < 0x80 := by omega
    rw [encodeChar_eq, if_pos ascii]
    simp [scan, step, begin, code, short]
  · obtain ⟨a, bytes, payload, missing, low, high, same, beyond, lead, completes⟩ :=
      exists_completes_encodeChar (Nat.not_le.mp ascii)
    rw [same, List.cons_append, scan, step, begin, if_neg (Nat.not_lt.mpr beyond), lead]
    simp only [List.nil_append]
    rw [scan_of_completes completes, List.length_cons, Nat.add_assoc, Nat.add_comm 1]

/-- It emits a character for nothing else. -/
theorem encodeChar_of_scan (h : scan pos none bytes = .char c :: more) :
    ∃ rest pos', bytes = String.utf8EncodeChar c ++ rest ∧ scan pos' none rest = more := by
  cases bytes with
  | nil => simp [scan] at h
  | cons a bytes =>
    rw [scan, step, begin] at h
    by_cases ascii : a.toNat < 0x80
    · simp only [if_pos ascii, List.cons_append, List.nil_append, List.cons.injEq,
        Piece.char.injEq] at h
      obtain ⟨hc, later⟩ := h
      have code := toNat_char hc.symm (by omega)
      refine ⟨bytes, pos + 1, ?_, later⟩
      rw [encodeChar_eq, code, if_pos (by omega), UInt8.ofNat_toNat]
      rfl
    · rw [if_neg ascii] at h
      cases lead : lead? a with
      | none => simp [lead] at h
      | some bounds =>
        obtain ⟨payload, missing, low, high⟩ := bounds
        have left : 1 ≤ missing := by
          have := lead?_cases lead
          omega
        simp only [lead, List.nil_append] at h
        obtain ⟨front, rest, rfl, completes, later⟩ := exists_completes_of_scan left h
        exact ⟨rest, _, by rw [encodeChar_of_completes lead completes, List.cons_append], later⟩

theorem scan_encode (text : List Char) (pos : Nat) :
    scan pos none (text.flatMap String.utf8EncodeChar) = text.map .char := by
  induction text generalizing pos with
  | nil => rfl
  | cons c text ih => rw [List.flatMap_cons, scan_encodeChar, ih, List.map_cons]

/-- Something comes of a sequence in progress. -/
theorem scan_some_ne_nil (p : Partial) (pos : Nat) (bytes : List UInt8) :
    scan pos (some p) bytes ≠ [] := by
  induction bytes generalizing p pos with
  | nil => simp [scan]
  | cons b bytes ih =>
    rw [scan, step]
    by_cases bounds : (p.low ≤ b.toNat && b.toNat ≤ p.high) = true
    · by_cases last : p.missing ≤ 1
      · simp [bounds, last]
      · simpa [bounds, last] using ih _ _
    · simp [bounds]

theorem eq_nil_of_scan (h : scan pos none bytes = []) : bytes = [] := by
  cases bytes with
  | nil => rfl
  | cons a bytes =>
    rw [scan, step, begin] at h
    by_cases ascii : a.toNat < 0x80
    · simp [ascii] at h
    · cases lead : lead? a with
      | none => simp [ascii, lead] at h
      | some bounds =>
        simp only [ascii, lead, if_false, List.nil_append] at h
        exact absurd h (scan_some_ne_nil _ _ _)

theorem eq_flatMap_of_scan (h : scan pos none bytes = text.map .char) :
    bytes = text.flatMap String.utf8EncodeChar := by
  induction text generalizing pos bytes with
  | nil => exact eq_nil_of_scan h
  | cons c text ih =>
    obtain ⟨rest, pos', rfl, later⟩ := encodeChar_of_scan h
    rw [List.flatMap_cons, ← ih later]

theorem decode_eq_ok_iff_pieces : decode bytes = .ok text ↔ pieces bytes = text.map .char := by
  unfold decode
  generalize pieces bytes = all
  induction all generalizing text with
  | nil => cases text <;> simp [pure, Except.pure]
  | cons piece all ih =>
    rw [List.mapM_cons]
    cases piece with
    | invalid e => cases text <;> simp [bind, Except.bind]
    | char c =>
      rw [Except.bind_eq_ok_iff]
      constructor
      · rintro ⟨_, ⟨⟩, rest⟩
        obtain ⟨later, read, hpure⟩ := Except.bind_eq_ok_iff.mp rest
        obtain rfl := Except.ok.inj hpure
        rw [ih.mp read, List.map_cons]
      · intro same
        cases text with
        | nil => simp at same
        | cons d text =>
          rw [List.map_cons, List.cons.injEq, Piece.char.injEq] at same
          obtain ⟨rfl, same⟩ := same
          exact ⟨c, rfl, Except.bind_eq_ok_iff.mpr ⟨text, ih.mpr same, rfl⟩⟩

/-- The bytes that have a text are those that it is encoded by. -/
theorem decode_eq_ok_iff : decode bytes = .ok text ↔ bytes = encode (String.ofList text) := by
  rw [decode_eq_ok_iff_pieces, encode, String.toList_ofList]
  constructor
  · exact eq_flatMap_of_scan
  · rintro rfl
    exact scan_encode text 0

theorem decode_encode (s : String) : decode (encode s) = .ok s.toList :=
  decode_eq_ok_iff.mpr (by rw [String.ofList_toList])

end PageBuild.Utf8
