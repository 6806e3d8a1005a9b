import OpenPgp.Enums

/-!
# The message grammar

`src/packet/grammar.ts`: `isValidOpenPGPMessage`, the recognizer the message parser runs over the
list of packet tags, against the OpenPGP Message grammar of RFC 9580 §10.3 that it implements.

`MessageGrammar eskOnly` is that grammar, with one production more when `eskOnly` holds: a bare
sequence of session-key packets, the empty one included. `MessageGrammar false` is RFC 9580's.

* `isValidOpenPGPMessage_iff`: on a complete list the recognizer accepts exactly what
  `MessageGrammar true` derives once the marker, padding and unknown tags are dropped. The extra
  production is `isValidEncryptedMessage`'s answer for a list without encrypted data.
* `isValidOpenPGPMessage_overaccepts`: it accepts every message of RFC 9580, and besides them
  exactly the lists without a data packet that `MessageGrammar true` derives: a bare ESK sequence
  under any chain of signatures, such as the empty list (`isValidOpenPGPMessage_nil`), a lone
  signature or a one-pass signature with its signature and nothing between.
* `isValidOpenPGPMessage_prefix`: every prefix of an accepted complete list is accepted as a
  partial list, so a validator that checks each partial list as packets arrive never rejects a
  message the final check accepts.
-/

namespace OpenPgp

open PacketTag

/-! ## The recognizer -/

/-- `isValidLiteralMessage`: a single literal data packet. -/
def isValidLiteralMessage (tagList : List Nat) (_acceptPartial : Bool) : Bool :=
  tagList.length == 1 && tagList.head? == some literalData

/-- `isValidCompressedMessage`: a single compressed data packet. -/
def isValidCompressedMessage (tagList : List Nat) (_acceptPartial : Bool) : Bool :=
  tagList.length == 1 && tagList.head? == some compressedData

/-- `isValidESKSequence` of `isValidEncryptedMessage`: PKESK and SKESK packets only. -/
def isValidESKSequence (tagList : List Nat) (_acceptPartial : Bool) : Bool :=
  tagList.all fun packetTag =>
    [publicKeyEncryptedSessionKey, symEncryptedSessionKey].contains packetTag

/-- The tags of the encrypted data packets `isValidEncryptedMessage` looks for. -/
def encryptedDataTags : List Nat :=
  [aeadEncryptedData, symmetricallyEncryptedData, symEncryptedIntegrityProtectedData]

/-- `isValidEncryptedMessage`: the first encrypted data packet is the last packet, and the
packets before it are session-key packets. A list without encrypted data passes when it is all
session-key packets. -/
def isValidEncryptedMessage (tagList : List Nat) (acceptPartial : Bool) : Bool :=
  match tagList.findIdx? encryptedDataTags.contains with
  | none => isValidESKSequence tagList acceptPartial
  | some encryptedDataPacketIndex =>
    encryptedDataPacketIndex == tagList.length - 1 &&
      isValidESKSequence (tagList.take encryptedDataPacketIndex) acceptPartial

/-- `util.findLastIndex(list, predicate)` (`src/util.js` is absent): the index of the last
element that satisfies the predicate, `-1` (here `none`) when none does. -/
def findLastIndex {α : Type} (list : List α) (predicate : α → Bool) : Option Nat :=
  (list.reverse.findIdx? predicate).map fun i => list.length - 1 - i

/-- `isUnknownPacketTag`: `enums.read(enums.packet, tag)` throws. -/
def isUnknownPacketTag (tag : Nat) : Bool := !PacketTag.known.contains tag

/-- The predicate of the filter of `isValidOpenPGPMessage`: a known tag other than marker and
padding. -/
def keptTag (tag : Nat) : Bool := tag != marker && tag != padding && !isUnknownPacketTag tag

/-- The filter of `isValidOpenPGPMessage`: marker, padding and unknown tags are dropped. -/
def normalizeTags (notNormalizedList : List Nat) : List Nat := notNormalizedList.filter keptTag

mutual

/-- `isValidSignedMessage`: a signature followed by a message, or a one-pass signature, a
message and the last signature of the list, which a partial list may still lack. The message is
`tagList.slice(1, correspondingSigPacketIndex)`, to the end when there is no signature. -/
def isValidSignedMessage (tagList : List Nat) (acceptPartial : Bool) : Bool :=
  match h : tagList with
  | [] => false
  | tag :: rest =>
    if tag = signature then isValidOpenPGPMessage rest acceptPartial
    else if tag = onePassSignature then
      let correspondingSigPacketIndex := findLastIndex tagList (· == signature)
      if correspondingSigPacketIndex ≠ some (tagList.length - 1) && !acceptPartial then false
      else isValidOpenPGPMessage
        ((tagList.take (correspondingSigPacketIndex.getD tagList.length)).drop 1) acceptPartial
    else false
termination_by 2 * tagList.length
decreasing_by
  all_goals simp_wf
  all_goals subst h
  all_goals (try simp only [List.length_cons, List.length_drop, List.length_take])
  all_goals omega

/-- `isValidOpenPGPMessage(notNormalizedList, acceptPartial)`: a literal, compressed, encrypted
or signed message, after the marker, padding and unknown tags are dropped. -/
def isValidOpenPGPMessage (notNormalizedList : List Nat) (acceptPartial : Bool) : Bool :=
  let normalizedList := normalizeTags notNormalizedList
  isValidLiteralMessage normalizedList acceptPartial ||
    isValidCompressedMessage normalizedList acceptPartial ||
    isValidEncryptedMessage normalizedList acceptPartial ||
    isValidSignedMessage normalizedList acceptPartial
termination_by 2 * notNormalizedList.length + 1
decreasing_by
  simp_wf
  have := List.length_filter_le keptTag notNormalizedList
  simp only [normalizeTags] at *
  omega

end

/-! ## The grammar -/

/-- The session-key packets, `ESK` of RFC 9580 §10.3. -/
inductive IsESK : Nat → Prop
  | pkesk : IsESK publicKeyEncryptedSessionKey
  | skesk : IsESK symEncryptedSessionKey

/-- The encryption containers of RFC 9580 §10.3. -/
inductive IsEncryptionContainer : Nat → Prop
  | sed : IsEncryptionContainer symmetricallyEncryptedData
  | seipd : IsEncryptionContainer symEncryptedIntegrityProtectedData
  | aead : IsEncryptionContainer aeadEncryptedData

/-- The OpenPGP Message grammar of RFC 9580 §10.3: `Message ::= LiteralData | CompressedData |
ESK* EncryptionContainer | Signature Message | OnePassSignature Message Signature`. With `eskOnly`,
a bare `ESK*` is a message too. -/
inductive MessageGrammar (eskOnly : Bool) : List Nat → Prop
  | literal : MessageGrammar eskOnly [literalData]
  | compressed : MessageGrammar eskOnly [compressedData]
  | encrypted {esks : List Nat} {c : Nat} (hesks : ∀ t ∈ esks, IsESK t)
      (hc : IsEncryptionContainer c) : MessageGrammar eskOnly (esks ++ [c])
  | signed {m : List Nat} : MessageGrammar eskOnly m → MessageGrammar eskOnly (signature :: m)
  | onePassSigned {m : List Nat} :
      MessageGrammar eskOnly m → MessageGrammar eskOnly (onePassSignature :: m ++ [signature])
  | eskSequence {esks : List Nat} (hesk : eskOnly = true) (hesks : ∀ t ∈ esks, IsESK t) :
      MessageGrammar eskOnly esks

/-! ## Tags -/

theorem isESK_iff {t : Nat} :
    [publicKeyEncryptedSessionKey, symEncryptedSessionKey].contains t = true ↔ IsESK t := by
  constructor
  · intro h
    simp only [List.elem_eq_mem, List.mem_cons, List.mem_singleton, List.not_mem_nil, or_false,
      decide_eq_true_eq] at h
    rcases h with rfl | rfl
    exacts [.pkesk, .skesk]
  · rintro (_ | _) <;> decide

theorem isEncryptionContainer_iff {t : Nat} :
    encryptedDataTags.contains t = true ↔ IsEncryptionContainer t := by
  constructor
  · intro h
    simp only [encryptedDataTags, List.elem_eq_mem, List.mem_cons, List.mem_singleton,
      List.not_mem_nil, or_false, decide_eq_true_eq] at h
    rcases h with rfl | rfl | rfl
    exacts [.aead, .sed, .seipd]
  · rintro (_ | _ | _) <;> decide

theorem IsESK.not_container {t : Nat} (h : IsESK t) : encryptedDataTags.contains t = false := by
  cases h <;> decide

theorem normalizeTags_eq_self {l : List Nat} (h : ∀ t ∈ l, keptTag t = true) :
    normalizeTags l = l :=
  List.filter_eq_self.2 h

theorem kept_of_mem_normalizeTags {l : List Nat} {t : Nat} (h : t ∈ normalizeTags l) :
    keptTag t = true :=
  (List.mem_filter.1 h).2

theorem IsESK.kept {t : Nat} (h : IsESK t) : keptTag t = true := by
  cases h <;> decide

theorem IsEncryptionContainer.kept {t : Nat} (h : IsEncryptionContainer t) : keptTag t = true := by
  cases h <;> decide

/-- Every tag a message derives is one the filter keeps. -/
theorem MessageGrammar.kept {b : Bool} {m : List Nat} (h : MessageGrammar b m) :
    ∀ t ∈ m, keptTag t = true := by
  induction h with
  | literal | compressed => intro t ht; simp at ht; subst ht; decide
  | encrypted hesks hc =>
    intro t ht
    rcases List.mem_append.1 ht with ht | ht
    · exact (hesks t ht).kept
    · simp at ht; subst ht; exact hc.kept
  | signed _ ih =>
    intro t ht
    rcases List.mem_cons.1 ht with rfl | ht
    · decide
    · exact ih t ht
  | onePassSigned _ ih =>
    intro t ht
    simp only [List.cons_append, List.mem_cons, List.mem_append, List.not_mem_nil, or_false] at ht
    rcases ht with rfl | ht | rfl
    · decide
    · exact ih t ht
    · decide
  | eskSequence _ hesks => exact fun t ht => (hesks t ht).kept

/-! ## The branches of the recognizer -/

theorem isValidLiteralMessage_iff {l : List Nat} {p : Bool} :
    isValidLiteralMessage l p = true ↔ l = [literalData] := by
  match l with
  | [] | [_] | _ :: _ :: _ => simp [isValidLiteralMessage]

theorem isValidCompressedMessage_iff {l : List Nat} {p : Bool} :
    isValidCompressedMessage l p = true ↔ l = [compressedData] := by
  match l with
  | [] | [_] | _ :: _ :: _ => simp [isValidCompressedMessage]

theorem isValidESKSequence_iff {l : List Nat} {p : Bool} :
    isValidESKSequence l p = true ↔ ∀ t ∈ l, IsESK t := by
  simp only [isValidESKSequence, List.all_eq_true, isESK_iff]

/-- An encrypted message is an ESK sequence, or one followed by encrypted data. -/
theorem isValidEncryptedMessage_iff {l : List Nat} {p : Bool} :
    isValidEncryptedMessage l p = true ↔ (∀ t ∈ l, IsESK t) ∨
      ∃ esks c, l = esks ++ [c] ∧ (∀ t ∈ esks, IsESK t) ∧ IsEncryptionContainer c := by
  unfold isValidEncryptedMessage
  split
  · next h =>
    rw [isValidESKSequence_iff]
    refine ⟨Or.inl, ?_⟩
    rintro (h' | ⟨esks, c, rfl, -, hc⟩)
    · exact h'
    · have := List.findIdx?_eq_none_iff.1 h c (by simp)
      rw [isEncryptionContainer_iff.2 hc] at this
      cases this
  · next i h =>
    obtain ⟨hi, hc, -⟩ := List.findIdx?_eq_some_iff_getElem.1 h
    simp only [Bool.and_eq_true, beq_iff_eq, isValidESKSequence_iff]
    constructor
    · rintro ⟨rfl, hesks⟩
      refine Or.inr ⟨l.take (l.length - 1), l[l.length - 1], ?_, hesks,
        isEncryptionContainer_iff.1 hc⟩
      conv_lhs => rw [← List.take_append_drop (l.length - 1) l]
      rw [List.drop_eq_getElem_cons hi]
      simp only [List.drop_eq_nil_of_le (show l.length ≤ l.length - 1 + 1 by omega)]
    · rintro (hall | ⟨esks, c, rfl, hesks, hc'⟩)
      · have := (hall _ (List.getElem_mem hi)).not_container
        rw [hc] at this
        cases this
      · have hfind : (esks ++ [c]).findIdx? encryptedDataTags.contains = some esks.length := by
          rw [List.findIdx?_append,
            List.findIdx?_eq_none_iff.2 fun x hx => (hesks x hx).not_container]
          have hc'' := isEncryptionContainer_iff.2 hc'
          simp_all
        rw [h] at hfind
        cases hfind
        simpa using hesks

/-- The last element of `l ++ [x]` is found at `|l|` when it satisfies the predicate. -/
theorem findLastIndex_append_singleton {α : Type} (l : List α) (x : α) (p : α → Bool)
    (h : p x = true) : findLastIndex (l ++ [x]) p = some l.length := by
  simp [findLastIndex, List.findIdx?_cons, h]

/-- The last index found is the list's last when the last element satisfies the predicate. -/
theorem findLastIndex_eq_length_sub_one {α : Type} {l : List α} {p : α → Bool}
    (h : findLastIndex l p = some (l.length - 1)) : ∃ m x, l = m ++ [x] ∧ p x = true := by
  rcases List.eq_nil_or_concat l with rfl | ⟨m, x, rfl⟩
  · simp [findLastIndex] at h
  · rw [List.concat_eq_append] at h ⊢
    refine ⟨m, x, rfl, ?_⟩
    by_contra hx
    simp only [findLastIndex, List.reverse_append, List.reverse_cons, List.reverse_nil,
      List.nil_append, List.singleton_append, List.findIdx?_cons, hx] at h
    simp only [Bool.false_eq_true, if_false, Nat.zero_add, List.findIdx?_succ] at h
    obtain ⟨j, hj, hj'⟩ := Option.map_eq_some'.1 h
    obtain ⟨i, hi, rfl⟩ := Option.map_eq_some'.1 hj
    obtain ⟨hlt, -⟩ := List.findIdx?_eq_some_iff_getElem.1 hi
    simp only [List.length_append, List.length_reverse, List.length_singleton] at hlt hj'
    omega


/-- A complete signed message: a signature and a message, or a one-pass signature, a message and
a signature. -/
theorem isValidSignedMessage_iff {l : List Nat} :
    isValidSignedMessage l false = true ↔
      (∃ m, l = signature :: m ∧ isValidOpenPGPMessage m false = true) ∨
      ∃ m, l = onePassSignature :: m ++ [signature] ∧ isValidOpenPGPMessage m false = true := by
  match l with
  | [] => simp [isValidSignedMessage]
  | t :: rest =>
    rw [isValidSignedMessage]
    by_cases h2 : t = signature
    · subst h2
      simp [signature, onePassSignature]
    · by_cases h4 : t = onePassSignature
      · subst h4
        by_cases hlast : ∃ m, rest = m ++ [signature]
        · obtain ⟨m, rfl⟩ := hlast
          have hidx := findLastIndex_append_singleton (onePassSignature :: m) signature
            (· == signature) (by simp)
          simp only [List.cons_append] at hidx
          rw [if_neg h2, if_pos rfl, hidx]
          simp [signature, onePassSignature]
        · have hidx : findLastIndex (onePassSignature :: rest) (· == signature) ≠
              some ((onePassSignature :: rest).length - 1) := by
            intro h
            obtain ⟨m, x, hm, hx⟩ := findLastIndex_eq_length_sub_one h
            simp only [beq_iff_eq] at hx
            subst hx
            rcases m with _ | ⟨y, m⟩
            · simp [onePassSignature, signature] at hm
            · simp only [List.cons_append, List.cons.injEq] at hm
              exact hlast ⟨m, hm.2⟩
          have hcond : (decide (findLastIndex (onePassSignature :: rest) (· == signature) ≠
              some ((onePassSignature :: rest).length - 1)) && !false) = true := by
            simpa using hidx
          rw [if_neg h2, if_pos rfl, if_pos hcond]
          simp only [Bool.false_eq_true, false_iff, not_or, not_exists, not_and]
          refine ⟨fun m h => by simp [onePassSignature, signature] at h, fun m h => ?_⟩
          simp only [List.cons_append, List.cons.injEq, true_and] at h
          exact absurd ⟨m, h⟩ hlast
      · simp [h2, h4]

/-! ## The recognizer's language -/

theorem normalizeTags_normalizeTags (l : List Nat) :
    normalizeTags (normalizeTags l) = normalizeTags l :=
  normalizeTags_eq_self fun _ => kept_of_mem_normalizeTags

/-- The recognizer sees only the tags the filter keeps. -/
theorem isValidOpenPGPMessage_normalizeTags (l : List Nat) (p : Bool) :
    isValidOpenPGPMessage (normalizeTags l) p = isValidOpenPGPMessage l p := by
  rw [isValidOpenPGPMessage, isValidOpenPGPMessage, normalizeTags_normalizeTags]

/-- The branches of the recognizer on a complete list. -/
theorem isValidOpenPGPMessage_false_iff (l : List Nat) :
    isValidOpenPGPMessage l false = true ↔
      ((normalizeTags l = [literalData] ∨ normalizeTags l = [compressedData]) ∨
        (∀ t ∈ normalizeTags l, IsESK t) ∨
        ∃ esks c, normalizeTags l = esks ++ [c] ∧ (∀ t ∈ esks, IsESK t) ∧
          IsEncryptionContainer c) ∨
      (∃ m, normalizeTags l = signature :: m ∧ isValidOpenPGPMessage m false = true) ∨
      ∃ m, normalizeTags l = onePassSignature :: m ++ [signature] ∧
        isValidOpenPGPMessage m false = true := by
  rw [isValidOpenPGPMessage]
  simp only [Bool.or_eq_true, isValidLiteralMessage_iff, isValidCompressedMessage_iff,
    isValidEncryptedMessage_iff, isValidSignedMessage_iff]

/-- What the recognizer accepts, the grammar with bare ESK sequences derives. -/
theorem messageGrammar_of_isValidOpenPGPMessage (l : List Nat)
    (h : isValidOpenPGPMessage l false = true) : MessageGrammar true (normalizeTags l) := by
  have hlen : (normalizeTags l).length ≤ l.length := List.length_filter_le _ _
  have hkept : ∀ t ∈ normalizeTags l, keptTag t = true := fun _ => kept_of_mem_normalizeTags
  rw [isValidOpenPGPMessage_false_iff] at h
  generalize normalizeTags l = N at *
  rcases h with ((rfl | rfl) | hall | ⟨esks, c, rfl, hesks, hc⟩) | ⟨m, rfl, hm⟩ | ⟨m, rfl, hm⟩
  · exact .literal
  · exact .compressed
  · exact .eskSequence rfl hall
  · exact .encrypted hesks hc
  · have ih := messageGrammar_of_isValidOpenPGPMessage m hm
    rw [normalizeTags_eq_self fun t ht => hkept t (List.mem_cons_of_mem _ ht)] at ih
    exact .signed ih
  · have ih := messageGrammar_of_isValidOpenPGPMessage m hm
    rw [normalizeTags_eq_self fun t ht => hkept t (by simp [ht])] at ih
    exact .onePassSigned ih
termination_by l.length
decreasing_by all_goals simp_wf; simp only [List.length_cons, List.length_append] at hlen; omega

/-- What the grammar with bare ESK sequences derives, the recognizer accepts. -/
theorem isValidOpenPGPMessage_of_messageGrammar {N : List Nat} (h : MessageGrammar true N) :
    isValidOpenPGPMessage N false = true := by
  rw [isValidOpenPGPMessage_false_iff, normalizeTags_eq_self h.kept]
  induction h with
  | literal => simp
  | compressed => simp
  | encrypted hesks hc => exact Or.inl (Or.inr (Or.inr ⟨_, _, rfl, hesks, hc⟩))
  | eskSequence _ hesks => exact Or.inl (Or.inr (Or.inl hesks))
  | @signed m hm ih =>
    refine Or.inr (Or.inl ⟨m, rfl, ?_⟩)
    rwa [isValidOpenPGPMessage_false_iff, normalizeTags_eq_self hm.kept]
  | @onePassSigned m hm ih =>
    refine Or.inr (Or.inr ⟨m, rfl, ?_⟩)
    rwa [isValidOpenPGPMessage_false_iff, normalizeTags_eq_self hm.kept]

/-- **The recognizer's language.** On a complete list, `isValidOpenPGPMessage` accepts exactly
the lists whose kept tags `MessageGrammar true` derives: RFC 9580's grammar and bare ESK
sequences. -/
theorem isValidOpenPGPMessage_iff (l : List Nat) :
    isValidOpenPGPMessage l false = true ↔ MessageGrammar true (normalizeTags l) :=
  ⟨messageGrammar_of_isValidOpenPGPMessage l, fun h =>
    isValidOpenPGPMessage_normalizeTags l false ▸ isValidOpenPGPMessage_of_messageGrammar h⟩

/-- The data packets: a message of RFC 9580 holds one. -/
inductive IsDataPacket : Nat → Prop
  | literal : IsDataPacket literalData
  | compressed : IsDataPacket compressedData
  | container {t : Nat} : IsEncryptionContainer t → IsDataPacket t

theorem IsESK.not_data {t : Nat} (h : IsESK t) : ¬IsDataPacket t := by
  rintro (_ | _ | (_ | _ | _)) <;> cases h

/-- Every message of RFC 9580 holds a data packet. -/
theorem MessageGrammar.hasData {m : List Nat} (h : MessageGrammar false m) :
    ∃ t ∈ m, IsDataPacket t := by
  induction h with
  | literal => exact ⟨_, List.mem_singleton_self _, .literal⟩
  | compressed => exact ⟨_, List.mem_singleton_self _, .compressed⟩
  | encrypted _ hc => exact ⟨_, List.mem_append_right _ (List.mem_singleton_self _), .container hc⟩
  | signed _ ih =>
    obtain ⟨t, ht, hd⟩ := ih
    exact ⟨t, List.mem_cons_of_mem _ ht, hd⟩
  | onePassSigned _ ih =>
    obtain ⟨t, ht, hd⟩ := ih
    exact ⟨t, by simp [ht], hd⟩
  | eskSequence hesk => cases hesk

/-- A message with bare ESK sequences that holds a data packet is a message of RFC 9580: the
bare sequence can only stand where the data would. -/
theorem MessageGrammar.rfc_of_hasData {m : List Nat} (h : MessageGrammar true m)
    (hd : ∃ t ∈ m, IsDataPacket t) : MessageGrammar false m := by
  induction h with
  | literal => exact .literal
  | compressed => exact .compressed
  | encrypted hesks hc => exact .encrypted hesks hc
  | signed _ ih =>
    obtain ⟨t, ht, hdt⟩ := hd
    rcases List.mem_cons.1 ht with rfl | ht
    · rcases hdt with _ | _ | (_ | _ | _)
    · exact .signed (ih ⟨t, ht, hdt⟩)
  | onePassSigned _ ih =>
    obtain ⟨t, ht, hdt⟩ := hd
    simp only [List.cons_append, List.mem_cons, List.mem_append, List.not_mem_nil,
      or_false] at ht
    rcases ht with rfl | ht | rfl
    · rcases hdt with _ | _ | (_ | _ | _)
    · exact .onePassSigned (ih ⟨t, ht, hdt⟩)
    · exact absurd hdt (by rintro (_ | _ | (_ | _ | _)))
  | eskSequence _ hesks =>
    obtain ⟨t, ht, hdt⟩ := hd
    exact absurd hdt (hesks t ht).not_data

/-- **The recognizer accepts exactly RFC 9580's messages and the data-free lists.** A complete
list is accepted without being a message of RFC 9580 exactly when its kept tags derive in the
grammar with bare ESK sequences and hold no data packet: an ESK sequence, the empty one included,
under any chain of signatures and one-pass signatures. -/
theorem isValidOpenPGPMessage_overaccepts (l : List Nat) :
    (isValidOpenPGPMessage l false = true ∧ ¬MessageGrammar false (normalizeTags l)) ↔
      MessageGrammar true (normalizeTags l) ∧ ∀ t ∈ normalizeTags l, ¬IsDataPacket t := by
  rw [isValidOpenPGPMessage_iff]
  constructor
  · rintro ⟨h, hrfc⟩
    exact ⟨h, fun t ht hd => hrfc (h.rfc_of_hasData ⟨t, ht, hd⟩)⟩
  · rintro ⟨h, hnd⟩
    refine ⟨h, fun hrfc => ?_⟩
    obtain ⟨t, ht, hd⟩ := hrfc.hasData
    exact hnd t ht hd

/-- The empty list is accepted, and is no message of RFC 9580. -/
theorem isValidOpenPGPMessage_nil :
    isValidOpenPGPMessage [] false = true ∧ ¬MessageGrammar false [] := by
  have h : MessageGrammar true [] := .eskSequence rfl fun _ ht => absurd ht (List.not_mem_nil _)
  refine ⟨(isValidOpenPGPMessage_iff []).2 h, fun hrfc => ?_⟩
  obtain ⟨t, ht, -⟩ := hrfc.hasData
  exact List.not_mem_nil _ ht

/-! ## Partial lists

The streaming validators run the recognizer with `acceptPartial` over the tags read so far. A
partial list differs in one branch only: a one-pass signature need not be closed yet, and its
message is taken up to the last signature read. -/

/-- A list of kept tags is accepted when its signed branch accepts it. -/
theorem isValidOpenPGPMessage_of_signed {N : List Nat} {p : Bool}
    (hN : ∀ t ∈ N, keptTag t = true) (h : isValidSignedMessage N p = true) :
    isValidOpenPGPMessage N p = true := by
  rw [isValidOpenPGPMessage, normalizeTags_eq_self hN, h, Bool.or_true]

/-- A list of kept tags is accepted when its encrypted branch accepts it. -/
theorem isValidOpenPGPMessage_of_encrypted {N : List Nat} {p : Bool}
    (hN : ∀ t ∈ N, keptTag t = true) (h : isValidEncryptedMessage N p = true) :
    isValidOpenPGPMessage N p = true := by
  rw [isValidOpenPGPMessage, normalizeTags_eq_self hN, h]
  simp

/-- A lone literal data packet is accepted, partial or not. -/
theorem isValidOpenPGPMessage_literal (p : Bool) :
    isValidOpenPGPMessage [literalData] p = true := by
  rw [isValidOpenPGPMessage]
  rfl

/-- A lone compressed data packet is accepted, partial or not. -/
theorem isValidOpenPGPMessage_compressed (p : Bool) :
    isValidOpenPGPMessage [compressedData] p = true := by
  rw [isValidOpenPGPMessage]
  rfl

/-- Every prefix of a list the grammar with bare ESK sequences derives is accepted as a partial
list. -/
theorem MessageGrammar.partial_of_initial {N : List Nat} (h : MessageGrammar true N) :
    ∀ P, P <+: N → isValidOpenPGPMessage P true = true := by
  have esks : ∀ l : List Nat, (∀ t ∈ l, IsESK t) → isValidOpenPGPMessage l true = true :=
    fun l hl => isValidOpenPGPMessage_of_encrypted (fun t ht => (hl t ht).kept)
      (isValidEncryptedMessage_iff.2 (.inl hl))
  have nil : isValidOpenPGPMessage [] true = true := esks [] (by simp)
  induction h with
  | literal =>
    intro P hP
    rcases List.prefix_cons_iff.1 hP with rfl | ⟨t, rfl, ht⟩
    · exact nil
    · rw [List.prefix_nil.1 ht]; exact isValidOpenPGPMessage_literal true
  | compressed =>
    intro P hP
    rcases List.prefix_cons_iff.1 hP with rfl | ⟨t, rfl, ht⟩
    · exact nil
    · rw [List.prefix_nil.1 ht]; exact isValidOpenPGPMessage_compressed true
  | @encrypted es c hesks hc =>
    intro P hP
    rcases List.prefix_concat_iff.1 hP with rfl | hP
    · exact isValidOpenPGPMessage_of_encrypted (@MessageGrammar.encrypted true es c hesks hc).kept
        (isValidEncryptedMessage_iff.2 (.inr ⟨es, c, rfl, hesks, hc⟩))
    · exact esks P fun t ht => hesks t (hP.subset ht)
  | eskSequence _ hesks => exact fun P hP => esks P fun t ht => hesks t (hP.subset ht)
  | @signed m hm ih =>
    intro P hP
    rcases List.prefix_cons_iff.1 hP with rfl | ⟨P', rfl, hP'⟩
    · exact nil
    · refine isValidOpenPGPMessage_of_signed (fun t ht => (hm.signed).kept t (hP.subset ht)) ?_
      rw [isValidSignedMessage]
      simpa using ih P' hP'
  | @onePassSigned m hm ih =>
    intro P hP
    rcases List.prefix_cons_iff.1 hP with rfl | ⟨P', rfl, hP'⟩
    · exact nil
    refine isValidOpenPGPMessage_of_signed (fun t ht => (hm.onePassSigned).kept t (hP.subset ht)) ?_
    rw [isValidSignedMessage]
    simp only [show onePassSignature ≠ signature by decide, if_false, if_true, Bool.not_true,
      Bool.and_false, Bool.false_eq_true]
    apply ih
    rw [show ∀ k, ((onePassSignature :: P').take k).drop 1 = P'.take (k - 1) by
      intro k; cases k <;> simp]
    rcases List.prefix_concat_iff.1 hP' with rfl | hP'
    · have hidx := findLastIndex_append_singleton (onePassSignature :: m) signature
        (· == signature) (by decide)
      simp only [List.cons_append] at hidx
      simp [hidx]
    · exact (List.take_prefix _ _).trans hP'

/-- **Partial acceptance is prefix-closed.** Every prefix of a complete list the recognizer accepts
is accepted as a partial list. -/
theorem isValidOpenPGPMessage_prefix {L P : List Nat} (hL : isValidOpenPGPMessage L false = true)
    (hP : P <+: L) : isValidOpenPGPMessage P true = true := by
  rw [← isValidOpenPGPMessage_normalizeTags]
  exact ((isValidOpenPGPMessage_iff L).1 hL).partial_of_initial _ (hP.filter keptTag)

/-- Two nested one-pass signatures, cut after the inner signature: the last signature of the
prefix closes the inner one-pass signature, not the outer. -/
theorem isValidOpenPGPMessage_prefix_nested :
    isValidOpenPGPMessage
        [onePassSignature, onePassSignature, literalData, signature, signature] false = true ∧
      [onePassSignature, onePassSignature, literalData, signature] <+:
        [onePassSignature, onePassSignature, literalData, signature, signature] ∧
      isValidOpenPGPMessage [onePassSignature, onePassSignature, literalData, signature] true =
        true :=
  have hL := isValidOpenPGPMessage_of_messageGrammar (.onePassSigned (.onePassSigned .literal))
  ⟨hL, ⟨[signature], rfl⟩, isValidOpenPGPMessage_prefix hL ⟨[signature], rfl⟩⟩

end OpenPgp
