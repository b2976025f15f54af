import ImportBoundary.Text.Utf8

/-!
Contract: encoded texts and the places between their characters.

Owns the round trip of `encode` and `decode`, the positions at which no character is cut in two,
and the octets between such positions, which are encoded texts again.

Main statements: `decode_encode`, `isCut_iff`, `IsEncoded.slice`, by which an encoded text cut at its
boundaries gives encoded texts, and `exists_decode_append`, by which octets that go on after a text
decode to that text and the rest.
-/

namespace ImportBoundary.Utf8

/-- Whether an octet continues a character rather than beginning one. -/
def IsContinuation (octet : UInt8) : Prop :=
  0x80 ≤ octet ∧ octet ≤ 0xbf

instance (octet : UInt8) : Decidable (IsContinuation octet) :=
  inferInstanceAs (Decidable (0x80 ≤ octet ∧ octet ≤ 0xbf))

/-- Whether octets can be cut at a position without cutting a character: it lies within them or at
their end, and no character goes on there. -/
def IsBoundary (octets : List UInt8) (position : Nat) : Prop :=
  position ≤ octets.length ∧ ∀ octet ∈ octets[position]?, ¬ IsContinuation octet

instance (octets : List UInt8) (position : Nat) : Decidable (IsBoundary octets position) :=
  have : Decidable (∀ octet ∈ octets[position]?, ¬ IsContinuation octet) :=
    Option.decidableForallMem octets[position]?
  instDecidableAnd

/-- Whether octets are the encoding of some text. -/
def IsEncoded (octets : List UInt8) : Prop :=
  ∃ text, octets = encode text

/-- Whether octets are the encoding of a text and a position lies between two of its characters, or at
one of its ends. -/
def IsCut (octets : List UInt8) (position : Nat) : Prop :=
  ∃ before after, octets = encode (before ++ after) ∧ (encode before).length = position

/-! ## One character -/

private theorem toNat_ofNat_small {value : Nat} (small : value < 256) :
    (UInt8.ofNat value).toNat = value := by
  rw [UInt8.toNat_ofNat', Nat.mod_eq_of_lt small]

private theorem lead_ofNat {value : Nat} (small : value < 256) :
    Lead.of? (UInt8.ofNat value) =
      if value < 0x80 then some ⟨0, value, 0x80, 0xbf⟩
      else if value < 0xc2 then none
      else if value < 0xe0 then some ⟨1, value - 0xc0, 0x80, 0xbf⟩
      else if value = 0xe0 then some ⟨2, 0, 0xa0, 0xbf⟩
      else if value = 0xed then some ⟨2, 0xd, 0x80, 0x9f⟩
      else if value < 0xf0 then some ⟨2, value - 0xe0, 0x80, 0xbf⟩
      else if value = 0xf0 then some ⟨3, 0, 0x90, 0xbf⟩
      else if value < 0xf4 then some ⟨3, value - 0xf0, 0x80, 0xbf⟩
      else if value = 0xf4 then some ⟨3, 4, 0x80, 0x8f⟩
      else none := by
  unfold Lead.of?
  simp only [UInt8.lt_iff_toNat_lt, ← UInt8.toNat_inj, toNat_ofNat_small small, UInt8.reduceToNat]

/-- The next six bits of a code point are read from an octet in the announced range. -/
private theorem continuation_ofNat (payload read remaining : Nat) {low high : UInt8} {bits : Nat}
    (small : bits < 0x40) (above : low.toNat ≤ bits + 0x80) (below : bits + 0x80 ≤ high.toNat)
    (rest : List UInt8) :
    continuation payload low high read (remaining + 1) (UInt8.ofNat (bits + 0x80) :: rest) =
      continuation (payload * 64 + bits) 0x80 0xbf (read + 1) remaining rest := by
  have value : (UInt8.ofNat (bits + 0x80)).toNat = bits + 0x80 := toNat_ofNat_small (by omega)
  have inRange : low ≤ UInt8.ofNat (bits + 0x80) ∧ UInt8.ofNat (bits + 0x80) ≤ high := by
    simp only [UInt8.le_iff_toNat_le, value]
    exact ⟨above, below⟩
  rw [continuation, if_pos inRange, value, Nat.add_sub_cancel]

/-- Octets after the first continuation may lie anywhere in the range of continuations. -/
private theorem continuation_rest (payload read remaining : Nat) {bits : Nat} (small : bits < 0x40)
    (rest : List UInt8) :
    continuation payload 0x80 0xbf read (remaining + 1) (UInt8.ofNat (bits + 0x80) :: rest) =
      continuation (payload * 64 + bits) 0x80 0xbf (read + 1) remaining rest := by
  apply continuation_ofNat payload read remaining small
  · show 0x80 ≤ bits + 0x80
    omega
  · show bits + 0x80 ≤ 0xbf
    omega

private theorem isContinuation_ofNat_iff {value : Nat} (small : value < 256) :
    IsContinuation (UInt8.ofNat value) ↔ 0x80 ≤ value ∧ value ≤ 0xbf := by
  simp only [IsContinuation, UInt8.le_iff_toNat_le, toNat_ofNat_small small, UInt8.reduceToNat]

/-- A character is written as an octet that begins one, and as many that continue it as that octet
announces; together they read as its code point. -/
structure Encodes (character : Char) (head : UInt8) (tail : List UInt8) (lead : Lead) : Prop where
  encoded : String.utf8EncodeChar character = head :: tail
  announced : Lead.of? head = some lead
  following : lead.following = tail.length
  completed : ∀ rest, continuation lead.payload lead.low lead.high 0 lead.following (tail ++ rest) =
    .ok character.toNat
  begins : ¬ IsContinuation head
  continues : ∀ octet ∈ tail, IsContinuation octet

section Encodes

variable {character : Char}

private theorem encodes_one (above : character.toNat ≤ 0x7f) :
    Encodes character (UInt8.ofNat character.toNat) [] ⟨0, character.toNat, 0x80, 0xbf⟩ where
  encoded := by simp only [String.utf8EncodeChar, Char.toNat] at above ⊢; rw [if_pos above]
  announced := by rw [lead_ofNat (by omega), if_pos (by omega)]
  following := rfl
  completed rest := by rw [continuation]
  begins := by rw [isContinuation_ofNat_iff (by omega)]; omega
  continues octet member := by cases member

private theorem encodes_two (below : 0x7f < character.toNat) (above : character.toNat ≤ 0x7ff) :
    Encodes character (UInt8.ofNat (character.toNat / 64 % 0x20 + 0xc0))
      [UInt8.ofNat (character.toNat % 0x40 + 0x80)]
      ⟨1, character.toNat / 64, 0x80, 0xbf⟩ where
  encoded := by
    simp only [String.utf8EncodeChar, Char.toNat] at below above ⊢
    rw [if_neg (by omega), if_pos above]
  announced := by
    have payload : character.toNat / 64 % 0x20 + 0xc0 - 0xc0 = character.toNat / 64 := by omega
    rw [lead_ofNat (by omega), if_neg (by omega), if_neg (by omega), if_pos (by omega), payload]
  following := rfl
  completed rest := by
    refine (continuation_rest (character.toNat / 64) 0 0 (Nat.mod_lt _ (by decide)) rest).trans ?_
    rw [continuation]
    congr 1
    omega
  begins := by rw [isContinuation_ofNat_iff (by omega)]; omega
  continues octet member := by
    rw [List.mem_singleton.mp member, isContinuation_ofNat_iff (by omega)]
    omega

/-- The lead `lead` announces `count` octets more, has read `payload`, and takes `next` for the first
of them. -/
private structure Leads (head : Nat) (lead : Lead) (count payload next : Nat) : Prop where
  announced : Lead.of? (UInt8.ofNat head) = some lead
  following : lead.following = count
  payload_eq : lead.payload = payload
  low_le : lead.low.toNat ≤ next
  le_high : next ≤ lead.high.toNat

/-- Leads of three octets: the range of the second is narrowed below U+0800 and at the surrogates. -/
private theorem exists_leads_three {code : Nat} (below : 0x7ff < code) (above : code ≤ 0xffff)
    (scalar : code < 0xd800 ∨ 0xdfff < code) :
    ∃ lead, Leads (code / 4096 % 0x10 + 0xe0) lead 2 (code / 4096) (code / 64 % 0x40 + 0x80) := by
  have payload : code / 4096 % 0x10 + 0xe0 - 0xe0 = code / 4096 := by omega
  have announced := lead_ofNat (show code / 4096 % 0x10 + 0xe0 < 256 by omega)
  rw [if_neg (by omega), if_neg (by omega), if_neg (by omega)] at announced
  by_cases isZero : code / 4096 = 0
  · rw [if_pos (by omega)] at announced
    exact ⟨_, announced, rfl, isZero.symm, by simp only [UInt8.reduceToNat]; omega,
      by simp only [UInt8.reduceToNat]; omega⟩
  · rw [if_neg (by omega)] at announced
    by_cases isSurrogate : code / 4096 = 0xd
    · rw [if_pos (by omega)] at announced
      exact ⟨_, announced, rfl, isSurrogate.symm, by simp only [UInt8.reduceToNat]; omega,
        by simp only [UInt8.reduceToNat]; omega⟩
    · rw [if_neg (by omega), if_pos (by omega), payload] at announced
      exact ⟨_, announced, rfl, rfl, by simp only [UInt8.reduceToNat]; omega,
        by simp only [UInt8.reduceToNat]; omega⟩

private theorem encodes_three (below : 0x7ff < character.toNat) (above : character.toNat ≤ 0xffff)
    {lead : Lead}
    (leads : Leads (character.toNat / 4096 % 0x10 + 0xe0) lead 2 (character.toNat / 4096)
      (character.toNat / 64 % 0x40 + 0x80)) :
    Encodes character (UInt8.ofNat (character.toNat / 4096 % 0x10 + 0xe0))
      [UInt8.ofNat (character.toNat / 64 % 0x40 + 0x80), UInt8.ofNat (character.toNat % 0x40 + 0x80)]
      lead where
  encoded := by
    simp only [String.utf8EncodeChar, Char.toNat] at below above ⊢
    rw [if_neg (by omega), if_neg (by omega), if_pos above]
  announced := leads.announced
  following := leads.following
  completed rest := by
    rw [leads.following, leads.payload_eq]
    refine (continuation_ofNat _ 0 1 (Nat.mod_lt _ (by decide)) leads.low_le leads.le_high _).trans ?_
    refine (continuation_rest _ 1 0 (Nat.mod_lt _ (by decide)) rest).trans ?_
    rw [continuation]
    congr 1
    omega
  begins := by rw [isContinuation_ofNat_iff (by omega)]; omega
  continues octet member := by
    simp only [List.mem_cons, List.not_mem_nil, or_false] at member
    rcases member with rfl | rfl <;> rw [isContinuation_ofNat_iff (by omega)] <;> omega

/-- Leads of four octets: the range of the second is narrowed below U+10000 and above U+10FFFF. -/
private theorem exists_leads_four {code : Nat} (below : 0xffff < code) (above : code < 0x110000) :
    ∃ lead, Leads (code / 262144 % 0x08 + 0xf0) lead 3 (code / 262144)
      (code / 4096 % 0x40 + 0x80) := by
  have payload : code / 262144 % 0x08 + 0xf0 - 0xf0 = code / 262144 := by omega
  have announced := lead_ofNat (show code / 262144 % 0x08 + 0xf0 < 256 by omega)
  rw [if_neg (by omega), if_neg (by omega), if_neg (by omega), if_neg (by omega), if_neg (by omega),
    if_neg (by omega)] at announced
  by_cases isZero : code / 262144 = 0
  · rw [if_pos (by omega)] at announced
    exact ⟨_, announced, rfl, isZero.symm, by simp only [UInt8.reduceToNat]; omega,
      by simp only [UInt8.reduceToNat]; omega⟩
  · rw [if_neg (by omega)] at announced
    by_cases isFour : code / 262144 = 4
    · rw [if_neg (by omega), if_pos (by omega)] at announced
      exact ⟨_, announced, rfl, isFour.symm, by simp only [UInt8.reduceToNat]; omega,
        by simp only [UInt8.reduceToNat]; omega⟩
    · rw [if_pos (by omega), payload] at announced
      exact ⟨_, announced, rfl, rfl, by simp only [UInt8.reduceToNat]; omega,
        by simp only [UInt8.reduceToNat]; omega⟩

private theorem encodes_four (below : 0xffff < character.toNat) {lead : Lead}
    (leads : Leads (character.toNat / 262144 % 0x08 + 0xf0) lead 3 (character.toNat / 262144)
      (character.toNat / 4096 % 0x40 + 0x80)) :
    Encodes character (UInt8.ofNat (character.toNat / 262144 % 0x08 + 0xf0))
      [UInt8.ofNat (character.toNat / 4096 % 0x40 + 0x80),
        UInt8.ofNat (character.toNat / 64 % 0x40 + 0x80), UInt8.ofNat (character.toNat % 0x40 + 0x80)]
      lead where
  encoded := by
    simp only [String.utf8EncodeChar, Char.toNat] at below ⊢
    rw [if_neg (by omega), if_neg (by omega), if_neg (by omega)]
  announced := leads.announced
  following := leads.following
  completed rest := by
    rw [leads.following, leads.payload_eq]
    refine (continuation_ofNat _ 0 2 (Nat.mod_lt _ (by decide)) leads.low_le leads.le_high _).trans ?_
    refine (continuation_rest _ 1 1 (Nat.mod_lt _ (by decide)) _).trans ?_
    refine (continuation_rest _ 2 0 (Nat.mod_lt _ (by decide)) rest).trans ?_
    rw [continuation]
    congr 1
    omega
  begins := by rw [isContinuation_ofNat_iff (by omega)]; omega
  continues octet member := by
    simp only [List.mem_cons, List.not_mem_nil, or_false] at member
    rcases member with rfl | rfl | rfl <;> rw [isContinuation_ofNat_iff (by omega)] <;> omega

end Encodes

theorem exists_encodes (character : Char) : ∃ head tail lead, Encodes character head tail lead := by
  have valid : character.toNat < 0xd800 ∨ 0xdfff < character.toNat ∧ character.toNat < 0x110000 :=
    character.valid
  by_cases one : character.toNat ≤ 0x7f
  · exact ⟨_, _, _, encodes_one one⟩
  by_cases two : character.toNat ≤ 0x7ff
  · exact ⟨_, _, _, encodes_two (by omega) two⟩
  by_cases three : character.toNat ≤ 0xffff
  · obtain ⟨lead, leads⟩ := exists_leads_three (Nat.lt_of_not_le two) three (by omega)
    exact ⟨_, _, lead, encodes_three (by omega) three leads⟩
  · obtain ⟨lead, leads⟩ := exists_leads_four (Nat.lt_of_not_le three) (by omega)
    exact ⟨_, _, lead, encodes_four (Nat.lt_of_not_le three) leads⟩

/-! ## Texts -/

theorem encode_append (left right : String) : encode (left ++ right) = encode left ++ encode right := by
  rw [encode, String.toList_append, List.flatMap_append, encode, encode]

/-- An ASCII octet comes first in an encoded text exactly where its character comes first in the text:
every other character has a head of its own. -/
theorem head?_encode_eq_some_iff {text : String} {character : Char}
    (isAscii : character.toNat < 0x80) :
    (encode text).head? = some (UInt8.ofNat character.toNat) ↔
      text.toList.head? = some character := by
  unfold encode
  cases text.toList with
  | nil => simp
  | cons first rest =>
      obtain ⟨head, tail, lead, encodes⟩ := exists_encodes first
      rw [List.flatMap_cons, encodes.encoded, List.cons_append, List.head?_cons, List.head?_cons,
        Option.some.injEq, Option.some.injEq]
      constructor
      · rintro rfl
        have announced := encodes.announced
        rw [lead_ofNat (by omega), if_pos isAscii] at announced
        obtain rfl := Option.some.inj announced
        have completed : Except.ok character.toNat = Except.ok first.toNat := encodes.completed []
        exact (Char.toNat_inj.mp (Except.ok.inj completed)).symm
      · rintro rfl
        have encoded := encodes.encoded
        rw [(encodes_one (Nat.le_of_lt_succ isAscii)).encoded] at encoded
        exact (List.cons.inj encoded).1.symm

private theorem decodeFrom_encoded (position : Nat) (characters : List Char) :
    decodeFrom position (characters.flatMap String.utf8EncodeChar) = .ok characters := by
  induction characters generalizing position with
  | nil => rw [List.flatMap_nil, decodeFrom]
  | cons character rest inductionHypothesis =>
      obtain ⟨head, tail, lead, encodes⟩ := exists_encodes character
      have remaining : (tail ++ rest.flatMap String.utf8EncodeChar).drop lead.following =
          rest.flatMap String.utf8EncodeChar := by
        rw [encodes.following, List.drop_left]
      rw [List.flatMap_cons, encodes.encoded, List.cons_append, decodeFrom]
      simp only [encodes.announced, encodes.completed, remaining, inductionHypothesis,
        Char.ofNat_toNat]

/-- Decoding an encoded text gives the text back. -/
theorem decode_encode (text : String) : decode (encode text) = .ok text := by
  rw [decode, encode, decodeFrom_encoded]
  simp [Except.map]

/-- The octets of a text are those of no other. -/
theorem encode_injective {left right : String} (same : encode left = encode right) :
    left = right := by
  have decoded := decode_encode left
  rw [same, decode_encode] at decoded
  exact (Except.ok.inj decoded).symm

theorem IsEncoded.decoded {octets : List UInt8} (encoded : IsEncoded octets) :
    ∃ text, decode octets = .ok text := by
  obtain ⟨text, rfl⟩ := encoded
  exact ⟨text, decode_encode text⟩

theorem isEncoded_encode (text : String) : IsEncoded (encode text) :=
  ⟨text, rfl⟩

theorem IsEncoded.append {left right : List UInt8} (first : IsEncoded left)
    (second : IsEncoded right) : IsEncoded (left ++ right) := by
  obtain ⟨leftText, rfl⟩ := first
  obtain ⟨rightText, rfl⟩ := second
  exact ⟨leftText ++ rightText, (encode_append leftText rightText).symm⟩

/-! ## Boundaries -/

/-- A boundary of an encoded text lies between its characters. Within a character every octet but
the first continues it. -/
private theorem exists_split_of_boundary (characters : List Char) {position : Nat}
    (boundary : IsBoundary (characters.flatMap String.utf8EncodeChar) position) :
    ∃ before after, characters = before ++ after ∧
      (before.flatMap String.utf8EncodeChar).length = position := by
  induction characters generalizing position with
  | nil =>
      have atStart : position = 0 := by simpa using boundary.1
      exact ⟨[], [], rfl, atStart.symm⟩
  | cons character rest inductionHypothesis =>
      obtain ⟨head, tail, lead, encodes⟩ := exists_encodes character
      rw [List.flatMap_cons, encodes.encoded, List.cons_append] at boundary
      by_cases atStart : position = 0
      · exact ⟨[], character :: rest, rfl, atStart.symm⟩
      obtain ⟨inner, rfl⟩ := Nat.exists_eq_succ_of_ne_zero atStart
      obtain ⟨within, beginning⟩ := boundary
      rw [List.length_cons, List.length_append] at within
      rw [List.getElem?_cons_succ] at beginning
      by_cases inside : inner < tail.length
      · rw [List.getElem?_append_left inside, List.getElem?_eq_getElem inside] at beginning
        exact absurd (encodes.continues _ (List.getElem_mem inside)) (beginning _ rfl)
      · rw [List.getElem?_append_right (by omega)] at beginning
        obtain ⟨before, after, split, length⟩ :=
          inductionHypothesis ⟨by omega, beginning⟩
        refine ⟨character :: before, after, by rw [split, List.cons_append], ?_⟩
        rw [List.flatMap_cons, encodes.encoded, List.length_append, List.length_cons, length]
        omega

/-- The first octet of a text begins a character. -/
theorem IsEncoded.boundary_zero {octets : List UInt8} (encoded : IsEncoded octets) :
    IsBoundary octets 0 := by
  obtain ⟨text, rfl⟩ := encoded
  refine ⟨Nat.zero_le _, ?_⟩
  rw [encode]
  cases text.toList with
  | nil =>
      intro octet noOctet
      cases noOctet
  | cons character rest =>
      obtain ⟨head, tail, lead, encodes⟩ := exists_encodes character
      intro octet isHead
      rw [List.flatMap_cons, encodes.encoded, List.cons_append, List.getElem?_cons_zero] at isHead
      cases isHead
      exact encodes.begins

/-- An encoded text cut at a boundary is two encoded texts. -/
theorem IsEncoded.cut {octets : List UInt8} (encoded : IsEncoded octets) {position : Nat}
    (boundary : IsBoundary octets position) :
    IsEncoded (octets.take position) ∧ IsEncoded (octets.drop position) := by
  obtain ⟨text, rfl⟩ := encoded
  obtain ⟨before, after, split, rfl⟩ := exists_split_of_boundary text.toList boundary
  have joined : encode text =
      before.flatMap String.utf8EncodeChar ++ after.flatMap String.utf8EncodeChar := by
    rw [encode, split, List.flatMap_append]
  rw [joined, List.take_left, List.drop_left]
  exact ⟨⟨String.ofList before, by simp [encode]⟩, ⟨String.ofList after, by simp [encode]⟩⟩

/-- The places between the characters of a text are the boundaries of its octets. -/
theorem isCut_iff {octets : List UInt8} {position : Nat} :
    IsCut octets position ↔ IsEncoded octets ∧ IsBoundary octets position := by
  constructor
  · rintro ⟨before, after, rfl, rfl⟩
    refine ⟨isEncoded_encode _, ?_, ?_⟩
    · rw [encode_append, List.length_append]
      exact Nat.le_add_right _ _
    · rw [encode_append, List.getElem?_append_right (Nat.le_refl _), Nat.sub_self]
      exact (isEncoded_encode after).boundary_zero.2
  · rintro ⟨⟨text, rfl⟩, boundary⟩
    obtain ⟨before, after, split, length⟩ := exists_split_of_boundary text.toList boundary
    refine ⟨String.ofList before, String.ofList after, ?_, ?_⟩
    · rw [← String.ofList_append, ← split, String.ofList_toList]
    · rw [encode, String.toList_ofList, length]

/-- What is a boundary stays one when the octets before an earlier position are dropped. -/
theorem IsBoundary.drop {octets : List UInt8} {position later : Nat} (ordered : position ≤ later)
    (boundary : IsBoundary octets later) : IsBoundary (octets.drop position) (later - position) := by
  obtain ⟨within, beginning⟩ := boundary
  refine ⟨by rw [List.length_drop]; omega, ?_⟩
  rw [List.getElem?_drop, Nat.add_sub_cancel' ordered]
  exact beginning

/-- The octets of an encoded text between two boundaries are an encoded text. -/
theorem IsEncoded.slice {octets : List UInt8} (encoded : IsEncoded octets) {start stop : Nat}
    (ordered : start ≤ stop) (first : IsBoundary octets start) (last : IsBoundary octets stop) :
    IsEncoded ((octets.drop start).take (stop - start)) :=
  ((encoded.cut first).2.cut (last.drop ordered)).1

/-! ## Texts one after the other -/

/-- A sequence that is completed takes no more octets than are there, and none of what follows. -/
private theorem continuation_append {payload read following point : Nat} {low high : UInt8}
    {octets : List UInt8}
    (completed : continuation payload low high read following octets = .ok point)
    (behind : List UInt8) :
    following ≤ octets.length ∧
      continuation payload low high read following (octets ++ behind) = .ok point := by
  induction following generalizing payload low high read octets with
  | zero =>
      rw [continuation] at completed ⊢
      exact ⟨Nat.zero_le _, completed⟩
  | succ remaining inductionHypothesis =>
      cases octets with
      | nil => cases completed
      | cons octet rest =>
          rw [continuation] at completed
          rw [List.cons_append, continuation, List.length_cons]
          split at completed
          · rename_i inRange
            obtain ⟨within, alsoCompleted⟩ := inductionHypothesis completed
            rw [if_pos inRange]
            exact ⟨Nat.succ_le_succ within, alsoCompleted⟩
          · cases completed

/-- One character is decoded at a time. -/
private theorem decodeFrom_cons_eq_ok_iff {position : Nat} {octet : UInt8} {rest : List UInt8}
    {characters : List Char} :
    decodeFrom position (octet :: rest) = .ok characters ↔
      ∃ lead point others, Lead.of? octet = some lead ∧
        continuation lead.payload lead.low lead.high 0 lead.following rest = .ok point ∧
        decodeFrom (position + lead.following + 1) (rest.drop lead.following) = .ok others ∧
        characters = Char.ofNat point :: others := by
  rw [decodeFrom]
  constructor
  · intro decoded
    split at decoded
    · cases decoded
    · rename_i lead announced
      split at decoded
      · cases decoded
      · rename_i point completed
        split at decoded
        · cases decoded
        · rename_i others remaining
          cases decoded
          exact ⟨lead, point, others, announced, completed, remaining, rfl⟩
  · rintro ⟨lead, point, others, announced, completed, remaining, rfl⟩
    simp only [announced, completed, remaining]

/-- What octets decode to does not depend on where they stand. -/
private theorem decodeFrom_moved (position other : Nat) :
    ∀ {octets : List UInt8} {characters : List Char},
      decodeFrom position octets = .ok characters → decodeFrom other octets = .ok characters
  | [], characters, decoded => by
      rw [decodeFrom] at decoded ⊢
      exact decoded
  | octet :: rest, characters, decoded => by
      obtain ⟨lead, point, others, announced, completed, remaining, rfl⟩ :=
        decodeFrom_cons_eq_ok_iff.mp decoded
      exact decodeFrom_cons_eq_ok_iff.mpr ⟨lead, point, others, announced, completed,
        decodeFrom_moved _ (other + lead.following + 1) remaining, rfl⟩
termination_by octets => octets.length
decreasing_by
  simp only [List.length_drop, List.length_cons]
  omega

private theorem exists_decodeFrom_append (position : Nat) (behind : List UInt8) :
    ∀ {octets : List UInt8} {characters whole : List Char},
      decodeFrom position octets = .ok characters →
        decodeFrom position (octets ++ behind) = .ok whole →
          ∃ rest, decodeFrom 0 behind = .ok rest ∧ whole = characters ++ rest
  | [], characters, whole, decoded, wholeDecoded => by
      rw [decodeFrom] at decoded
      cases decoded
      exact ⟨whole, decodeFrom_moved position 0 wholeDecoded, rfl⟩
  | octet :: remaining, characters, whole, decoded, wholeDecoded => by
      obtain ⟨lead, point, others, announced, completed, othersDecoded, rfl⟩ :=
        decodeFrom_cons_eq_ok_iff.mp decoded
      obtain ⟨within, alsoCompleted⟩ := continuation_append completed behind
      rw [List.cons_append] at wholeDecoded
      obtain ⟨wholeLead, wholePoint, wholeOthers, wholeAnnounced, wholeCompleted, restDecoded, rfl⟩ :=
        decodeFrom_cons_eq_ok_iff.mp wholeDecoded
      obtain rfl : lead = wholeLead := Option.some.inj (announced.symm.trans wholeAnnounced)
      obtain rfl : point = wholePoint := Except.ok.inj (alsoCompleted.symm.trans wholeCompleted)
      rw [List.drop_append_of_le_length within] at restDecoded
      obtain ⟨rest, behindDecoded, rfl⟩ := exists_decodeFrom_append _ behind othersDecoded restDecoded
      exact ⟨rest, behindDecoded, rfl⟩
termination_by octets => octets.length
decreasing_by
  simp only [List.length_drop, List.length_cons]
  omega

private theorem decode_eq_ok_iff {octets : List UInt8} {text : String} :
    decode octets = .ok text ↔ decodeFrom 0 octets = .ok text.toList := by
  unfold decode
  cases decodeFrom 0 octets with
  | error fault => simp [Except.map]
  | ok characters =>
      simp only [Except.map, Except.ok.injEq]
      constructor
      · rintro rfl
        exact String.toList_ofList.symm
      · rintro rfl
        exact String.ofList_toList

/-- A text whose octets begin with those of a text begins with that text, and the octets behind it
are the rest. -/
theorem exists_decode_append {octets behind : List UInt8} {text whole : String}
    (decoded : decode octets = .ok text) (wholeDecoded : decode (octets ++ behind) = .ok whole) :
    ∃ rest, decode behind = .ok rest ∧ whole = text ++ rest := by
  rw [decode_eq_ok_iff] at decoded wholeDecoded
  obtain ⟨rest, behindDecoded, joined⟩ := exists_decodeFrom_append 0 behind decoded wholeDecoded
  refine ⟨String.ofList rest, ?_, ?_⟩
  · rw [decode_eq_ok_iff, String.toList_ofList]
    exact behindDecoded
  · rw [← String.ofList_toList (s := whole), joined, String.ofList_append, String.ofList_toList]

end ImportBoundary.Utf8
