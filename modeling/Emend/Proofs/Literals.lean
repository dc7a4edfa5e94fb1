import Emend.Proofs.Passes

/-!
# Literal texts among bytes

A literal text is looked for character by character, while what is reported of it, and what a
text is cut at, are places in bytes. The two agree because a character's bytes tell where it
begins: the first byte of a text is the first byte of a character, and no byte inside of a
character is.

* `occursAt_iff`: the bytes of a text occur among those of another one exactly where the text
  itself does.
* `length_le_of_cut?`: the search stops at the first place at which the needle stands.
* `located_of_firstCut`: so a literal is found at the first one of its bytes' occurrences, and
  between bytes at which characters begin.
* `literal_exact` adds what becomes of a text in which a rule finds its literal.
-/

namespace Emend

namespace Text

variable {needle text : String} {k : Nat}

/-! ## Bytes -/

/-- The bytes of the needle stand in those of the text, behind `k` of them. -/
def OccursAt (needle text : String) (k : Nat) : Prop :=
  ∃ before after : ByteArray,
    text.toUTF8 = before ++ needle.toUTF8 ++ after ∧ before.size = k

/-- May a text be cut behind `k` of its bytes, without cutting through a character? -/
def IsBoundary (text : String) (k : Nat) : Prop := (String.Pos.Raw.mk k).IsValid text

theorem isBoundary_iff : IsBoundary text k ↔
    ∃ before after : String, text = before ++ after ∧ before.utf8ByteSize = k := by
  unfold IsBoundary
  rw [String.Pos.Raw.isValid_iff_exists_append]
  constructor
  · rintro ⟨before, after, htext, hk⟩
    exact ⟨before, after, htext, (congrArg String.Pos.Raw.byteIdx hk).symm⟩
  · rintro ⟨before, after, htext, hk⟩
    exact ⟨before, after, htext, String.Pos.Raw.ext hk.symm⟩

/-- **A text that is not empty begins where a character begins**, wherever its bytes stand. -/
theorem OccursAt.isBoundary (h : OccursAt needle text k) (hn : needle ≠ "") :
    IsBoundary text k := by
  obtain ⟨before, after, htext, hk⟩ := h
  rw [String.toUTF8_eq_toByteArray, String.toUTF8_eq_toByteArray] at htext
  have hsize : 0 < needle.toByteArray.size := by
    rw [String.size_toByteArray]
    have hne : needle.utf8ByteSize ≠ 0 := fun h0 => hn (String.utf8ByteSize_eq_zero_iff.mp h0)
    omega
  have htotal := congrArg ByteArray.size htext
  rw [ByteArray.size_append, ByteArray.size_append, String.size_toByteArray] at htotal
  have hlt : String.Pos.Raw.mk k < text.rawEndPos := by
    show k < text.utf8ByteSize
    omega
  have hneedle : needle.toByteArray[0].IsUTF8FirstByte := by
    have hpos : (0 : String.Pos.Raw) < needle.rawEndPos := by
      show 0 < needle.utf8ByteSize
      simpa using hsize
    exact String.isUTF8FirstByte_getUTF8Byte_zero (h := hpos)
  -- the byte behind `k` others is the first one of the needle
  have hbyte : text.getUTF8Byte ⟨k⟩ hlt = needle.toByteArray[0] := by
    simp only [String.getUTF8Byte, htext, ByteArray.append_assoc]
    rw [ByteArray.getElem_append_right (by omega), ByteArray.getElem_append_left (by omega)]
    simp only [hk, Nat.sub_self]
  refine String.Pos.Raw.isValid_iff_isUTF8FirstByte.mpr (.inr ⟨hlt, ?_⟩)
  rw [hbyte]
  exact hneedle

/-- What begins with the bytes of a text begins with the text. -/
theorem exists_eq_append_of_bytes {rest : String} {after : ByteArray}
    (h : rest.toByteArray = needle.toByteArray ++ after) : ∃ back, rest = needle ++ back := by
  rw [← String.utf8Encode_toList, ← String.utf8Encode_toList] at h
  obtain ⟨back, hback⟩ := List.isPrefix_of_utf8Encode_append_eq_utf8Encode after h.symm
  refine ⟨String.ofList back, String.toList_inj.mp ?_⟩
  rw [String.toList_append, String.toList_ofList, hback]

/-- Where a text stands among characters, it stands among bytes. -/
theorem occursAt_of_append {before after : String} (h : text = before ++ needle ++ after) :
    OccursAt needle text before.utf8ByteSize := by
  refine ⟨before.toUTF8, after.toUTF8, ?_, ?_⟩
  · simp only [String.toUTF8_eq_toByteArray, h, String.toByteArray_append]
  · rw [String.toUTF8_eq_toByteArray, String.size_toByteArray]

/-- **An occurrence among bytes is one among characters.** -/
theorem occursAt_iff (hn : needle ≠ "") : OccursAt needle text k ↔
    ∃ before after : String, text = before ++ needle ++ after ∧ before.utf8ByteSize = k := by
  constructor
  · intro h
    obtain ⟨front, rest, hsplit, hfront⟩ := isBoundary_iff.mp (h.isBoundary hn)
    obtain ⟨before, after, htext, hk⟩ := h
    rw [String.toUTF8_eq_toByteArray, String.toUTF8_eq_toByteArray, hsplit,
      String.toByteArray_append, ByteArray.append_assoc] at htext
    -- the bytes before the occurrence are those of the text before it
    have hbefore : front.toByteArray = before := by
      refine ByteArray.append_inj_left htext ?_
      rw [String.size_toByteArray, hfront, hk]
    rw [hbefore, ByteArray.append_right_inj] at htext
    obtain ⟨back, rfl⟩ := exists_eq_append_of_bytes htext
    exact ⟨front, back, by rw [hsplit, String.append_assoc], hfront⟩
  · rintro ⟨before, after, htext, rfl⟩
    exact occursAt_of_append htext

/-! ## The first occurrence -/

theorem length_le_of_cutFrom {needle passed text before after before' after' : List Char}
    (h : cutFrom needle passed text = some (before, after))
    (hs : text = before' ++ needle ++ after') :
    before.length ≤ passed.length + before'.length := by
  induction text generalizing passed before' with
  | nil =>
      rw [cutFrom] at h
      split at h
      · cases h
        rw [List.length_reverse]
        omega
      · cases h
  | cons c cs ih =>
      rw [cutFrom] at h
      split at h
      · cases h
        rw [List.length_reverse]
        omega
      · rename_i hnot
        -- the needle does not stand at the front, so the other split has passed `c` as well
        cases before' with
        | nil => exact absurd (List.isPrefixOf_iff_prefix.mpr ⟨after', hs.symm⟩) hnot
        | cons b bs =>
            have hrest := ih h (List.cons.inj hs).2
            rw [List.length_cons] at hrest ⊢
            omega

/-- **No occurrence stands before the one at which a text is cut.** -/
theorem length_le_of_cut? {needle text before after before' after' : List Char}
    (h : cut? needle text = some (before, after)) (hs : text = before' ++ needle ++ after') :
    before.length ≤ before'.length := by
  have hle := length_le_of_cutFrom h hs
  rw [List.length_nil] at hle
  omega

/-- A text cut around the first place at which the needle stands. -/
structure FirstCut (needle text before after : String) : Prop where
  parts : text = before ++ needle ++ after
  shortest : ∀ before' after' : String, text = before' ++ needle ++ after' →
    before.length ≤ before'.length

/-- The search cuts a text around the first one. -/
theorem firstCut_of_cut? {before after : String}
    (h : cut? needle.toList text.toList = some (before.toList, after.toList)) :
    FirstCut needle text before after where
  parts := by
    rw [← String.toList_inj, String.toList_append, String.toList_append]
    exact cut?_eq_some h
  shortest := by
    intro before' after' htext
    have hlist : text.toList = before'.toList ++ needle.toList ++ after'.toList := by
      rw [htext, String.toList_append, String.toList_append]
    have hle := length_le_of_cut? h hlist
    rw [String.length_toList, String.length_toList] at hle
    exact hle

/-- **Cutting a text finds the first occurrence, or there is none among its bytes.** -/
theorem cut?_cases (needle text : String) :
    (cut? needle.toList text.toList = none ∧ ∀ k, ¬ OccursAt needle text k)
      ∨ ∃ before after : String,
        cut? needle.toList text.toList = some (before.toList, after.toList)
          ∧ FirstCut needle text before after := by
  cases h : cut? needle.toList text.toList with
  | none =>
      have hnone : ∀ before after : String, text ≠ before ++ needle ++ after := by
        rintro before after rfl
        refine cut?_eq_none h before.toList after.toList ?_
        rw [String.toList_append, String.toList_append]
      -- the empty text is always found
      have hn : needle ≠ "" := fun hn => hnone "" text (by simp [hn])
      refine .inl ⟨rfl, fun k hk => ?_⟩
      obtain ⟨before, after, htext, -⟩ := (occursAt_iff hn).mp hk
      exact hnone before after htext
  | some parts =>
      obtain ⟨before, after⟩ := parts
      have hcut : cut? needle.toList text.toList =
          some ((String.ofList before).toList, (String.ofList after).toList) := by
        rw [String.toList_ofList, String.toList_ofList, h]
      rw [← h]
      exact .inr ⟨String.ofList before, String.ofList after, hcut, firstCut_of_cut? hcut⟩

/-- So the search finds the place at which a text is cut. -/
theorem FirstCut.cut?_eq {before after : String} (h : FirstCut needle text before after) :
    cut? needle.toList text.toList = some (before.toList, after.toList) := by
  rcases cut?_cases needle text with ⟨-, hnone⟩ | ⟨before', after', hcut, h'⟩
  · exact absurd (occursAt_of_append h.parts) (hnone _)
  · have hle : before.length ≤ before'.length := h.shortest _ _ h'.parts
    have hge : before'.length ≤ before.length := h'.shortest _ _ h.parts
    have hsides : before.toList ++ (needle.toList ++ after.toList)
        = before'.toList ++ (needle.toList ++ after'.toList) := by
      have hparts := congrArg String.toList (h.parts.symm.trans h'.parts)
      simpa using hparts
    have hlength : before.toList.length = before'.toList.length := by
      rw [String.length_toList, String.length_toList]
      exact Nat.le_antisymm hle hge
    obtain ⟨hbefore, hrest⟩ := List.append_inj hsides hlength
    rw [hcut, hbefore, List.append_cancel_left hrest]

/-- It is the first one among bytes, too. -/
theorem FirstCut.le_of_occursAt {before after : String}
    (h : FirstCut needle text before after) (hk : OccursAt needle text k) :
    before.utf8ByteSize ≤ k := by
  by_cases hn : needle = ""
  · -- the empty text stands everywhere, also between the bytes of a character, but first in front
    have hlength := h.shortest "" text (by simp [hn])
    have hempty : before = "" := by
      rw [← String.toList_eq_nil_iff, ← List.length_eq_zero_iff, String.length_toList]
      exact Nat.le_zero.mp hlength
    rw [hempty]
    exact Nat.zero_le k
  · obtain ⟨before', after', htext, rfl⟩ := (occursAt_iff hn).mp hk
    have hle : before.toList.length ≤ before'.toList.length := by
      rw [String.length_toList, String.length_toList]
      exact h.shortest before' after' htext
    -- both are the beginning of one text, and the shorter one begins the other
    have hshort : before.toList <+: text.toList := by
      rw [h.parts, String.append_assoc, String.toList_append]
      exact List.prefix_append _ _
    have hlong : before'.toList <+: text.toList := by
      rw [htext, String.append_assoc, String.toList_append]
      exact List.prefix_append _ _
    obtain ⟨more, hmore⟩ := List.prefix_of_prefix_length_le hshort hlong hle
    have hsplit : before' = before ++ String.ofList more := by
      rw [← String.toList_inj, String.toList_append, String.toList_ofList, hmore]
    rw [hsplit, String.utf8ByteSize_append]
    exact Nat.le_add_right _ _

/-! ## Places in characters and in bytes -/

theorem byteLength_toList (text : String) : byteLength text.toList = text.utf8ByteSize := by
  have hchars : ∀ cs : List Char, byteLength cs = (String.ofList cs).utf8ByteSize := by
    intro cs
    induction cs with
    | nil => rfl
    | cons c cs ih =>
        rw [byteLength, ih, String.ofList_cons, String.utf8ByteSize_append,
          String.utf8ByteSize_singleton]
  rw [hchars, String.ofList_toList]

/-- The place behind the beginning of a text. -/
theorem byteOffset_append (before after : String) :
    byteOffset (before ++ after).toList before.toList.length = before.utf8ByteSize := by
  rw [byteOffset, String.toList_append, List.take_left, byteLength_toList]

end Text

open Text

namespace Matcher

variable {text content : String} {m : Match}

/-! ## What is reported of a literal -/

/-- A match that says where a literal text occurs first. -/
structure Located (text content : String) (m : Match) : Prop where
  occurs : OccursAt text content (m.byteStart content)
  first : ∀ k, OccursAt text content k → m.byteStart content ≤ k
  stop : m.byteStop content = m.byteStart content + text.utf8ByteSize
  /-- Both ends lie between characters. -/
  boundaries : IsBoundary content (m.byteStart content) ∧ IsBoundary content (m.byteStop content)
  groups : m.groups = [some text]

/-- The match of a literal text behind another one. -/
def behind (before text : String) : Match where
  start := before.toList.length
  stop := before.toList.length + text.toList.length
  groups := [some text]

theorem find?_of_cut {before after : String}
    (h : cut? text.toList content.toList = some (before.toList, after.toList)) :
    (literal text).find? content = some (behind before text) := by
  rw [find?, h]
  rfl

theorem byteStart_behind {before after : String} (h : content = before ++ text ++ after) :
    (behind before text).byteStart content = before.utf8ByteSize := by
  rw [Match.byteStart, behind, h, String.append_assoc, byteOffset_append]

theorem byteStop_behind {before after : String} (h : content = before ++ text ++ after) :
    (behind before text).byteStop content = before.utf8ByteSize + text.utf8ByteSize := by
  have hstop : (behind before text).stop = (before ++ text).toList.length := by
    rw [String.toList_append, List.length_append]
    rfl
  rw [Match.byteStop, hstop, h, byteOffset_append, String.utf8ByteSize_append]

/-- **The first cut of a text is where the literal is found.** -/
theorem located_of_firstCut {before after : String} (h : FirstCut text content before after) :
    Located text content (behind before text) where
  occurs := by
    rw [byteStart_behind h.parts]
    exact occursAt_of_append h.parts
  first := by
    intro k hk
    rw [byteStart_behind h.parts]
    exact h.le_of_occursAt hk
  stop := by rw [byteStart_behind h.parts, byteStop_behind h.parts]
  boundaries := by
    rw [byteStart_behind h.parts, byteStop_behind h.parts]
    refine ⟨isBoundary_iff.mpr ⟨before, text ++ after, ?_, rfl⟩,
      isBoundary_iff.mpr ⟨before ++ text, after, h.parts, String.utf8ByteSize_append⟩⟩
    rw [h.parts, String.append_assoc]
  groups := rfl

end Matcher

namespace Rule

variable {rule : Rule} {text content before after : String} {m : Match}

/-! ## What becomes of a text with a literal in it -/

/-- A text in which a rule has replaced the literal that stands at a match. -/
structure ReplacedAt (rule : Rule) (text content : String) (m : Match) (before after : String) :
    Prop where
  cut : FirstCut text content before after
  /-- What stays is cut out before the first byte of the match and behind its last one. -/
  slices : before.toUTF8 = content.toUTF8.extract 0 (m.byteStart content)
    ∧ after.toUTF8 = content.toUTF8.extract (m.byteStop content) content.utf8ByteSize
  applied : rule.apply content = (before ++ rule.replacement.text ++ after, .applied 1)
  /-- The match is no longer than the text, and the room reckoned with it is the room needed. -/
  room : m.byteStop content - m.byteStart content ≤ content.utf8ByteSize
    ∧ (rule.apply content).1.utf8ByteSize =
      content.utf8ByteSize - (m.byteStop content - m.byteStart content)
        + rule.replacement.text.utf8ByteSize

theorem edit?_of_cut (hm : rule.matcher = .literal text)
    (h : cut? text.toList content.toList = some (before.toList, after.toList)) :
    rule.edit? content = some (before ++ rule.replacement.text ++ after, 1) := by
  rw [edit?, hm]
  simp only [h, Option.map_some, Option.some.injEq, Prod.mk.injEq, and_true]
  rw [← String.toList_inj, String.toList_ofList, String.toList_append, String.toList_append]

/-- The two sides of a literal are slices of the text. -/
theorem slices_of_parts (h : content = before ++ text ++ after) :
    before.toUTF8 = content.toUTF8.extract 0 before.utf8ByteSize
      ∧ after.toUTF8 = content.toUTF8.extract (before.utf8ByteSize + text.utf8ByteSize)
        content.utf8ByteSize := by
  simp only [String.toUTF8_eq_toByteArray, h, String.toByteArray_append, String.utf8ByteSize_append]
  constructor
  · rw [ByteArray.append_assoc, ByteArray.extract_append_eq_left String.size_toByteArray.symm]
  · rw [ByteArray.extract_append_eq_right]
    · rw [ByteArray.size_append, String.size_toByteArray, String.size_toByteArray]
    · rw [ByteArray.size_append, String.size_toByteArray, String.size_toByteArray,
        String.size_toByteArray]

/-- **A rule replaces the literal where it is found.** -/
theorem replacedAt_of_firstCut (hm : rule.matcher = .literal text)
    (hg : rule.guardSatisfied content = false)
    (hc : cut? text.toList content.toList = some (before.toList, after.toList))
    (h : FirstCut text content before after) :
    rule.ReplacedAt text content (Matcher.behind before text) before after := by
  have happlied := apply_of_edit hg (edit?_of_cut hm hc)
  have hstart := Matcher.byteStart_behind h.parts
  have hstop := Matcher.byteStop_behind h.parts
  have hsize : content.utf8ByteSize =
      before.utf8ByteSize + text.utf8ByteSize + after.utf8ByteSize := by
    rw [h.parts, String.utf8ByteSize_append, String.utf8ByteSize_append]
  refine ⟨h, ?_, happlied, ?_⟩
  · rw [hstart, hstop]
    exact slices_of_parts h.parts
  · rw [hstart, hstop, happlied, String.utf8ByteSize_append, String.utf8ByteSize_append]
    omega

end Rule

/--
**A literal text is found at its first byte, and replaced without cutting a character.** It is not
found exactly if its bytes occur nowhere. Otherwise the match begins at the first place at which
they occur and ends behind them, and characters begin, or the text ends, at both of these places.
A rule whose guard is not satisfied replaces that occurrence, between the shortest text that can
stand before it and what stands behind it; and if there is none it leaves the text as it is.
-/
theorem Matcher.literal_exact (text content : String) :
    ((literal text).find? content = none ↔ ∀ k, ¬ OccursAt text content k)
      ∧ (∀ m, (literal text).find? content = some m → Located text content m)
      ∧ (literal text).isMatch content = ((literal text).find? content).isSome
      ∧ ∀ rule : Rule, rule.matcher = .literal text → rule.guardSatisfied content = false →
        match (literal text).find? content with
        | some m => ∃ before after, rule.ReplacedAt text content m before after
        | none => rule.apply content =
          (content, if rule.required then .failed else .absent) := by
  rcases cut?_cases text content with ⟨hc, hnone⟩ | ⟨before, after, hc, hfirst⟩
  · have hfind : (literal text).find? content = none := by
      rw [find?, hc]
      rfl
    have hmatch : (literal text).isMatch content = false := by
      rw [isMatch, occurs, hc]
      rfl
    rw [hfind, hmatch]
    refine ⟨iff_of_true rfl hnone, by simp, rfl, fun rule hm hg => ?_⟩
    exact Rule.apply_of_absent hg (by rw [hm, hmatch])
  · have hfind := find?_of_cut hc
    have hmatch : (literal text).isMatch content = true := by
      rw [isMatch, occurs, hc]
      rfl
    have hlocated := located_of_firstCut hfirst
    rw [hfind, hmatch]
    refine ⟨?_, ?_, rfl, fun rule hm hg => ?_⟩
    · exact iff_of_false (by simp) fun hnone => hnone _ hlocated.occurs
    · intro m hm
      rw [← Option.some.inj hm]
      exact hlocated
    · exact ⟨before, after, Rule.replacedAt_of_firstCut hm hg hc hfirst⟩

/-- Characters of several bytes before the match and in it. -/
example : ((Matcher.literal "é").find? "äéé").map
    (fun m => (m.start, m.byteStart "äéé", m.byteStop "äéé")) = some (1, 2, 4) := by
  decide

end Emend
