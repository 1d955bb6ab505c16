import HostedFiles.Proofs.Tag.Keys
import HostedFiles.Proofs.Tag.Records
import Mathlib.Data.List.Forall2

/-!
# Proofs/Tag/Lines — a line of tags is read back

A line is cut at a space, at semicolons and at equals signs.  No key holds any of them
(`not_mem_key`), and escaping keeps the first two out of a value and is undone by its rules
(`unescape_escape`).  So the tags of a line are read back in order, and what follows them is the
rest of the message (`readBack_wire`).

Of the characters that may stand on no line, the character zero has no escape.  It is sent as it is,
in as many places as it has in the value, and no other is sent (`forbidden_in_wire`).
-/

namespace HostedFiles

open Text

namespace Text

/-- Nothing stands in a line of pieces but the pieces and the separator. -/
theorem mem_intercalate {sep c : Char} {pieces : List (List Char)}
    (h : c ∈ [sep].intercalate pieces) : c = sep ∨ ∃ piece ∈ pieces, c ∈ piece := by
  induction pieces with
  | nil => cases h
  | cons first rest ih =>
    cases rest with
    | nil =>
      rw [List.intercalate_singleton] at h
      exact .inr ⟨first, List.mem_cons_self, h⟩
    | cons second rest =>
      rw [List.intercalate_cons_cons, List.mem_append, List.mem_append, List.mem_singleton] at h
      rcases h with (h | h) | h
      · exact .inr ⟨first, List.mem_cons_self, h⟩
      · exact .inl h
      · exact (ih h).imp_right fun ⟨piece, hpiece, hc⟩ => ⟨piece, List.mem_cons_of_mem _ hpiece, hc⟩

end Text

namespace Tag

variable {key value : String} {tag : Tag} {c : Char}

/-! ## Tags that may be sent -/

/-- **A key and a value make the tag that holds them**, or none. -/
theorem ofPair_eq_ok_iff : ofPair key value = .ok tag ↔ tag.key = key ∧ tag.value = value := by
  constructor
  · intro h
    rw [ofPair] at h
    split_ifs at h
    cases h
    exact ⟨rfl, rfl⟩
  · rintro ⟨rfl, rfl⟩
    rw [ofPair, dif_pos tag.key_valid, dif_pos tag.value_fits]

/-! ## Characters of a key -/

/-- A character that may stand somewhere in a key. -/
def isKeyChar (c : Char) : Bool :=
  isVendorChar c || c == '/' || c == '+'

/-- **A key is made of these characters.** -/
theorem isKeyChar_of_mem (hkey : isKey key = true) (h : c ∈ key.toList) : isKeyChar c = true := by
  obtain ⟨p, htext⟩ := Parts.exists_text_iff.2 (isKey_iff.1 hkey)
  rw [← htext] at h
  rcases Parts.mem_text h with hvendor | rfl | rfl
  · rw [isKeyChar, isVendorChar_iff.2 hvendor, Bool.true_or, Bool.true_or]
  · rfl
  · rfl

/-- Nothing else stands in a key. -/
theorem not_mem_key (tag : Tag) (h : isKeyChar c = false) : c ∉ tag.key.toList := fun hmem =>
  Bool.false_ne_true (h.symm.trans (isKeyChar_of_mem tag.key_valid hmem))

/-! ## Tags on a line -/

theorem toList_wire (tag : Tag) :
    tag.wire.toList = tag.key.toList ++ '=' :: (escape tag.value).toList := by
  rw [wire, String.toList_append, String.toList_append, List.append_assoc]
  rfl

/-- **A tag is cut in two at its first equals sign.** -/
theorem splitFirst?_wire (tag : Tag) :
    splitFirst? '=' tag.wire.toList = some (tag.key.toList, (escape tag.value).toList) := by
  rw [toList_wire, splitFirst?_append (tag.not_mem_key (by decide))]

/-! ## What may not stand on a line -/

/-- A character that may not stand in an escaped value. -/
def isForbidden (c : Char) : Bool :=
  c == '\x00' || c == '\r' || c == '\n' || c == ';' || c == ' '

/-- A text that may be sent as an escaped value. -/
def IsLegal (s : List Char) : Prop :=
  ∀ c ∈ s, isForbidden c = false

/-- What may not stand on a line is escaped, and the character zero is not. -/
theorem filter_isForbidden_escapeChar (c : Char) :
    (escapeChar c).filter isForbidden = [c].filter (· == '\x00') := by
  unfold escapeChar
  split_ifs with hsemicolon hspace hback hreturn hfeed
  · subst hsemicolon; rfl
  · subst hspace; rfl
  · subst hback; rfl
  · subst hreturn; rfl
  · subst hfeed; rfl
  · have hforbidden : isForbidden c = (c == '\x00') := by
      simp only [isForbidden, beq_eq_false_iff_ne.2 hsemicolon, beq_eq_false_iff_ne.2 hspace,
        beq_eq_false_iff_ne.2 hreturn, beq_eq_false_iff_ne.2 hfeed, Bool.or_false]
    rw [List.filter_singleton, List.filter_singleton, hforbidden]

/-- **Of what may not stand on a line, escaping leaves the character zero**, as often as it stands
in the value. -/
theorem filter_isForbidden_escape (value : String) :
    (escape value).toList.filter isForbidden = value.toList.filter (· == '\x00') := by
  rw [escape, String.toList_ofList]
  induction value.toList with
  | nil => rfl
  | cons c value ih =>
    rw [List.flatMap_cons, List.filter_append, filter_isForbidden_escapeChar, ih,
      ← List.filter_append, List.singleton_append]

/-- No key has room for it. -/
theorem isKeyChar_of_isForbidden (h : isForbidden c = true) : isKeyChar c = false := by
  simp only [isForbidden, Bool.or_eq_true, beq_iff_eq] at h
  rcases h with (((rfl | rfl) | rfl) | rfl) | rfl <;> decide

/-- The same holds of a tag as a whole. -/
theorem filter_isForbidden_wire (tag : Tag) :
    tag.wire.toList.filter isForbidden = tag.value.toList.filter (· == '\x00') := by
  have hkey : tag.key.toList.filter isForbidden = [] := List.filter_eq_nil_iff.2 fun c hmem h =>
    tag.not_mem_key (isKeyChar_of_isForbidden h) hmem
  have hequals : ¬ isForbidden '=' = true := by decide
  rw [toList_wire, List.filter_append, hkey, List.nil_append, List.filter_cons_of_neg hequals,
    filter_isForbidden_escape]

/-- Neither the separator nor a space stands in a tag. -/
theorem not_mem_wire (tag : Tag) (h : isForbidden c = true) (hzero : c ≠ '\x00') :
    c ∉ tag.wire.toList := by
  intro hmem
  have hleft : c ∈ tag.wire.toList.filter isForbidden := List.mem_filter.2 ⟨hmem, h⟩
  rw [filter_isForbidden_wire] at hleft
  exact hzero (by simpa using (List.mem_filter.1 hleft).2)

/-- **An escaped value may be sent if the character zero is not in the value.** -/
theorem isLegal_escape_iff : IsLegal (escape value).toList ↔ '\x00' ∉ value.toList := by
  have hnone : IsLegal (escape value).toList ↔ (escape value).toList.filter isForbidden = [] := by
    simp only [IsLegal, List.filter_eq_nil_iff, Bool.not_eq_true]
  rw [hnone, filter_isForbidden_escape, List.filter_eq_nil_iff]
  constructor
  · exact fun h hmem => h _ hmem rfl
  · rintro h c hmem hc
    obtain rfl : c = '\x00' := by simpa using hc
    exact h hmem

/-- **Only a character zero in the value makes a tag that may not be sent**: nothing forbidden
stands in the tag but the zeros of its value.  The tag of a record has none. -/
theorem forbidden_in_wire (h : ofPair key value = .ok tag) :
    splitFirst? '=' tag.wire.toList = some (key.toList, (escape value).toList) ∧
      tag.wire.toList.filter isForbidden = value.toList.filter (· == '\x00') ∧
      (IsLegal (escape value).toList ↔ '\x00' ∉ value.toList) ∧
      ∀ record : Metadata, record.tag = .ok tag → IsLegal (escape value).toList := by
  obtain ⟨rfl, rfl⟩ := ofPair_eq_ok_iff.1 h
  refine ⟨tag.splitFirst?_wire, tag.filter_isForbidden_wire, isLegal_escape_iff,
    fun record hrecord => isLegal_escape_iff.2 fun hmem => ?_⟩
  have hvalue : tag.value = record.written := (ofPair_eq_ok_iff.1 hrecord).2
  rw [hvalue] at hmem
  exact absurd (Metadata.toNat_of_mem_written hmem) (by decide)

/-- A value of this character alone makes a tag, and is sent as it is. -/
theorem forbidden_of_zero : ∃ tag, ofPair "k" "\x00" = .ok tag ∧ tag.wire = "k=\x00" ∧
    ¬ IsLegal (escape "\x00").toList := by
  have htag : ofPair "k" "\x00" = .ok ⟨"k", "\x00", by decide, by decide⟩ := rfl
  obtain ⟨-, -, hlegal, -⟩ := forbidden_in_wire htag
  exact ⟨_, htag, by decide, fun h => hlegal.1 h (by decide)⟩

/-! ## Reading -/

/-- The character that a backslash and `c` stand for. -/
def unescapeChar (c : Char) : Char :=
  if c = ':' then ';'
  else if c = 's' then ' '
  else if c = 'r' then '\r'
  else if c = 'n' then '\n'
  else c

/-- A value as it was before it was escaped; a backslash at the end stands for nothing. -/
def unescape : List Char → List Char
  | [] => []
  | ['\\'] => []
  | '\\' :: c :: rest => unescapeChar c :: unescape rest
  | c :: rest => c :: unescape rest

/-- A character is read back, whatever follows it. -/
theorem unescape_escapeChar (c : Char) (rest : List Char) :
    unescape (escapeChar c ++ rest) = c :: unescape rest := by
  unfold escapeChar
  split_ifs with hsemicolon hspace hback hreturn hfeed
  · subst hsemicolon; rfl
  · subst hspace; rfl
  · subst hback; rfl
  · subst hreturn; rfl
  · subst hfeed; rfl
  · rw [List.singleton_append, unescape]
    · rintro rfl; exact absurd rfl hback
    · rintro d more rfl; exact absurd rfl hback

/-- **A value is read back from its escapes.** -/
theorem unescape_escape (value : String) : unescape (escape value).toList = value.toList := by
  rw [escape, String.toList_ofList]
  induction value.toList with
  | nil => rfl
  | cons c value ih => rw [List.flatMap_cons, unescape_escapeChar, ih]

/-- The key and the value of a piece of a line: what stands in front of the first equals sign, and
what stands behind it without escapes. -/
def pairOf (piece : List Char) : String × String :=
  match splitFirst? '=' piece with
  | some (key, escaped) => (String.ofList key, String.ofList (unescape escaped))
  | none => (String.ofList piece, "")

/-- **A tag is read back.** -/
theorem pairOf_wire (tag : Tag) : pairOf tag.wire.toList = (tag.key, tag.value) := by
  simp only [pairOf, splitFirst?_wire, unescape_escape, String.ofList_toList]

end Tag

/-! ## Lines -/

namespace TagMessage

open Tag

variable {source target : String} {pairs : List (String × String)} {tags : List Tag}

/-- The pairs in front of the first space of a line, and what follows that space. -/
def ofLine? (line : String) : Option (List (String × String) × String) :=
  match splitFirst? ' ' line.toList with
  | some ('@' :: pieces, rest) => some ((splitAll ';' pieces).map pairOf, String.ofList rest)
  | _ => none

/-- The tags of a message stand in front of the first space. -/
theorem splitFirst?_wire (message : TagMessage) (hne : message.tags ≠ []) :
    splitFirst? ' ' message.wire.toList =
      some ('@' :: [';'].intercalate (message.tags.map fun tag => tag.wire.toList),
        (":" ++ message.source ++ " TAGMSG " ++ message.target).toList) := by
  have hspace : ' ' ∉ '@' :: [';'].intercalate (message.tags.map fun tag => tag.wire.toList) := by
    intro hmem
    rcases List.mem_cons.1 hmem with h | h
    · exact absurd h (by decide)
    rcases mem_intercalate h with h | ⟨piece, hpiece, h⟩
    · exact absurd h (by decide)
    · obtain ⟨tag, -, rfl⟩ := List.mem_map.1 hpiece
      exact tag.not_mem_wire (by decide) (by decide) h
  have hwire : message.wire.toList =
      ('@' :: [';'].intercalate (message.tags.map fun tag => tag.wire.toList)) ++
        ' ' :: (":" ++ message.source ++ " TAGMSG " ++ message.target).toList := by
    rw [wire, if_neg hne]
    simp only [wireTags, String.toList_append, String.toList_intercalate, List.map_map,
      List.append_assoc, List.cons_append]
    rfl
  rw [hwire, splitFirst?_append hspace]

/-- **The tags of a message are read back from its line**, and the line goes on behind them. -/
theorem ofLine?_wire (message : TagMessage) (hne : message.tags ≠ []) :
    ofLine? message.wire = some (message.tags.map fun tag => (tag.key, tag.value),
      ":" ++ message.source ++ " TAGMSG " ++ message.target) := by
  have hpieces : splitAll ';' ([';'].intercalate (message.tags.map fun tag => tag.wire.toList)) =
      message.tags.map fun tag => tag.wire.toList := by
    refine splitAll_intercalate (by simpa using hne) fun piece hpiece => ?_
    obtain ⟨tag, -, rfl⟩ := List.mem_map.1 hpiece
    exact tag.not_mem_wire (by decide) (by decide)
  simp only [ofLine?, splitFirst?_wire message hne, hpieces, List.map_map, Function.comp_def,
    pairOf_wire, String.ofList_toList]

/-- Tags hold the pairs that they were made of. -/
theorem map_eq_pairs
    (h : List.Forall₂ (fun pair tag => Tag.ofPair pair.1 pair.2 = .ok tag) pairs tags) :
    tags.map (fun tag => (tag.key, tag.value)) = pairs := by
  induction h with
  | nil => rfl
  | cons htag _ ih =>
    obtain ⟨hkey, hvalue⟩ := ofPair_eq_ok_iff.1 htag
    rw [List.map_cons, ih, hkey, hvalue]

/-- **The pairs that tags were made of are read back from a line, in their order**, whatever the
values hold, and no escaped value is too long. -/
theorem readBack_wire (source target : String)
    (htags : List.Forall₂ (fun pair tag => Tag.ofPair pair.1 pair.2 = .ok tag) pairs tags)
    (hne : tags ≠ []) :
    ofLine? (wire { source, target, tags }) =
        some (pairs, ":" ++ source ++ " TAGMSG " ++ target) ∧
      ∀ pair ∈ pairs, (escape pair.2).utf8ByteSize ≤ 4094 := by
  have hpairs := map_eq_pairs htags
  constructor
  · rw [ofLine?_wire _ hne, hpairs]
  · intro pair hpair
    rw [← hpairs] at hpair
    obtain ⟨tag, -, rfl⟩ := List.mem_map.1 hpair
    exact tag.value_fits

/-- Backslashes in front of what is escaped are told apart from those of escapes. -/
theorem readBack_wire_backslashes : ∃ tags,
    List.Forall₂ (fun pair tag => Tag.ofPair pair.1 pair.2 = .ok tag)
        [("k", "\\\\; \\s"), ("+example.com/typing", "a=b\r\n")] tags ∧
      wire { source := "alice!a@h", target := "#chat", tags } =
        "@k=\\\\\\\\\\:\\s\\\\s;+example.com/typing=a=b\\r\\n :alice!a@h TAGMSG #chat" ∧
      ofLine? (wire { source := "alice!a@h", target := "#chat", tags }) =
        some ([("k", "\\\\; \\s"), ("+example.com/typing", "a=b\r\n")],
          ":alice!a@h TAGMSG #chat") := by
  have htags : List.Forall₂ (fun pair tag => Tag.ofPair pair.1 pair.2 = .ok tag)
      [("k", "\\\\; \\s"), ("+example.com/typing", "a=b\r\n")]
      [⟨"k", "\\\\; \\s", by decide, by decide⟩,
        ⟨"+example.com/typing", "a=b\r\n", by decide, by decide⟩] :=
    .cons rfl (.cons rfl .nil)
  obtain ⟨hread, -⟩ := readBack_wire "alice!a@h" "#chat" htags (List.cons_ne_nil _ _)
  exact ⟨_, htags, by decide, hread⟩

end TagMessage

end HostedFiles
