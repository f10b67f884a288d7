import GlyphGrid.Proofs.Yaml.Scanning

/-!
# The content of a written mapping

The tokens of a mapping that was written section by section are parsed as the mapping of the keys to
their values (`Section.read?_sections`).  A parser takes one unit of fuel from each function to the
next, and a token more gives three units, so that it never runs out of fuel.
-/

namespace GlyphGrid.Yaml

namespace Node

variable {handles : TagHandles} {inBlock unindented : Bool} {anchors : Anchors} {ts : List Token}
  {fuel : Nat}

/-- A plain or quoted text without a name or a tag is a node. -/
lemma node_scalar (s : Scalar) :
    node handles inBlock unindented (fuel + 1) anchors (.scalar s :: ts)
      = some (.scalar none s, ts, anchors) := by
  simp [node, properties?, ofScalar, Properties.name]

lemma nodeOrMissing_scalar (s : Scalar) :
    nodeOrMissing handles inBlock unindented false (fuel + 2) anchors (.scalar s :: ts)
      = some (.scalar none s, ts, anchors) := by
  rw [nodeOrMissing, if_neg Bool.false_ne_true, node_scalar]

/-- Words after hyphens are read as the items of a sequence. -/
lemma unindentedItems_itemTokens (words : List (List Char)) (hts : endsBlockNode ts = true)
    (hfuel : words.length + 3 ≤ fuel) :
    unindentedItems handles fuel anchors (Lexer.itemTokens words ++ ts)
      = some (words.map fun word => .scalar none ⟨String.ofList word, .plain⟩, ts, anchors) := by
  obtain ⟨fuel, rfl⟩ : ∃ n, fuel = n + 1 := ⟨fuel - 1, by omega⟩
  induction words generalizing fuel with
  | nil =>
    cases ts with
    | nil => cases hts
    | cons t ts =>
      cases t with
      | key | value | blockEnd => simp [Lexer.itemTokens, unindentedItems]
      | _ => cases hts
  | cons word words ih =>
    rw [List.length_cons] at hfuel
    obtain ⟨fuel, rfl⟩ : ∃ n, fuel = n + 2 := ⟨fuel - 2, by omega⟩
    have hrest := ih (fuel + 1) (by omega)
    have htokens : Lexer.itemTokens (word :: words) ++ ts = .blockEntry
        :: .scalar ⟨String.ofList word, .plain⟩ :: (Lexer.itemTokens words ++ ts) := rfl
    have hpresent (more : List Token) :
        (endsBlockEntry (.scalar ⟨String.ofList word, .plain⟩ :: more)
          || endsBlockNode (.scalar ⟨String.ofList word, .plain⟩ :: more)) = false := rfl
    rw [htokens, unindentedItems, hpresent, nodeOrMissing_scalar]
    simp only [hrest]
    rfl

/-- A list of words is a sequence. -/
lemma node_itemTokens {words : List (List Char)} (hne : words ≠ []) (hts : endsBlockNode ts = true)
    (hfuel : words.length + 4 ≤ fuel) :
    node handles true true fuel anchors (Lexer.itemTokens words ++ ts)
      = some (.sequence (words.map fun word => .scalar none ⟨String.ofList word, .plain⟩), ts,
        anchors) := by
  obtain ⟨fuel, rfl⟩ : ∃ n, fuel = n + 1 := ⟨fuel - 1, by omega⟩
  have hitems : unindentedItems handles fuel anchors (Lexer.itemTokens words ++ ts)
      = some (words.map fun word => .scalar none ⟨String.ofList word, .plain⟩, ts, anchors) :=
    unindentedItems_itemTokens words hts (by omega)
  obtain ⟨word, words, rfl⟩ := List.exists_cons_of_ne_nil hne
  have htokens : Lexer.itemTokens (word :: words) ++ ts = .blockEntry
      :: .scalar ⟨String.ofList word, .plain⟩ :: (Lexer.itemTokens words ++ ts) := rfl
  rw [htokens] at hitems ⊢
  simp only [node, properties?, Properties.announce, Properties.name, Properties.settle, hitems]
  rfl

end Node

namespace Section

open Node

/-- A section whose value is parsed as its content, whatever comes after it. -/
structure IsParsed (s : Section) : Prop where
  endsBlockNode_append : ∀ ts, endsBlockNode (s.value ++ ts) = false
  node_append : ∀ {handles fuel anchors ts}, endsBlockNode ts = true → s.value.length + 4 ≤ fuel →
    node handles true true fuel anchors (s.value ++ ts) = some (s.content, ts, anchors)

lemma isParsed_ofText (name text : String) : (ofText name text).IsParsed where
  endsBlockNode_append _ := rfl
  node_append {handles fuel anchors ts} _ hfuel := by
    obtain ⟨fuel, rfl⟩ : ∃ n, fuel = n + 1 := ⟨fuel - 1, by omega⟩
    exact node_scalar _

lemma isParsed_ofWord (name word : String) : (ofWord name word).IsParsed where
  endsBlockNode_append _ := rfl
  node_append {handles fuel anchors ts} _ hfuel := by
    obtain ⟨fuel, rfl⟩ : ∃ n, fuel = n + 1 := ⟨fuel - 1, by omega⟩
    exact node_scalar _

lemma isParsed_ofWords (name : String) {words : List (List Char)} (hne : words ≠ []) :
    (ofWords name words).IsParsed where
  endsBlockNode_append ts := by
    obtain ⟨word, words, rfl⟩ := List.exists_cons_of_ne_nil hne
    rfl
  node_append {handles fuel anchors ts} hts hfuel := by
    refine node_itemTokens hne hts ?_
    have hlength : words.length ≤ (Lexer.itemTokens words).length := by
      simpa [Lexer.itemTokens, List.length_flatMap] using
        Nat.le_mul_of_pos_right words.length Nat.two_pos
    exact Nat.le_trans (Nat.add_le_add_right hlength 4) hfuel

variable {sections : List Section}

/-- The entry of a section in its mapping. -/
def entry (s : Section) : Node × Node := (.scalar none ⟨s.key, .plain⟩, s.content)

/-- The entries of a mapping are parsed section by section. -/
lemma blockEntries_sections (h : ∀ s ∈ sections, s.IsParsed) {handles : TagHandles} {fuel : Nat}
    {anchors : Anchors} (hfuel : (sections.flatMap tokens).length + 6 ≤ fuel) :
    blockEntries handles fuel anchors (sections.flatMap tokens ++ [.blockEnd])
      = some (sections.map entry, [], anchors) := by
  induction sections generalizing fuel with
  | nil =>
    obtain ⟨fuel, rfl⟩ : ∃ n, fuel = n + 1 := ⟨fuel - 1, by omega⟩
    simp [blockEntries]
  | cons s sections ih =>
    have htokens : (s :: sections).flatMap tokens ++ [.blockEnd] = .key :: .scalar ⟨s.key, .plain⟩
        :: .value :: (s.value ++ (sections.flatMap tokens ++ [.blockEnd])) := by
      simp [tokens]
    have hlength : ((s :: sections).flatMap tokens).length
        = s.value.length + 3 + (sections.flatMap tokens).length := by
      rw [List.flatMap_cons, List.length_append, tokens]
      rfl
    obtain ⟨fuel, rfl⟩ : ∃ n, fuel = n + 3 := ⟨fuel - 3, by omega⟩
    have hparsed := h s List.mem_cons_self
    have hnext : endsBlockNode (sections.flatMap tokens ++ [.blockEnd]) = true := by
      cases sections <;> rfl
    have hvalue : node handles true true fuel anchors
        (s.value ++ (sections.flatMap tokens ++ [.blockEnd]))
          = some (s.content, sections.flatMap tokens ++ [.blockEnd], anchors) :=
      hparsed.node_append hnext (by omega)
    have hrest : blockEntries handles (fuel + 2) anchors (sections.flatMap tokens ++ [.blockEnd])
        = some (sections.map entry, [], anchors) :=
      ih (fun s hs => h s (List.mem_cons_of_mem _ hs)) (by omega)
    have hname : endsBlockNode (.scalar ⟨s.key, .plain⟩
        :: .value :: (s.value ++ (sections.flatMap tokens ++ [.blockEnd]))) = false := rfl
    rw [htokens, blockEntries, hname, nodeOrMissing_scalar]
    simp only [blockValue, hparsed.endsBlockNode_append, nodeOrMissing, Bool.false_eq_true,
      if_false, hvalue, hrest]
    rfl

/-- A mapping that is written section by section is parsed as the mapping of its keys to their
values, and an empty text as nothing. -/
lemma read?_sections (hread : ∀ s ∈ sections, s.IsRead) (hparsed : ∀ s ∈ sections, s.IsParsed) :
    Node.read? (sections.flatMap lines)
      = some (if sections = [] then none else some (.mapping (sections.map entry))) := by
  rw [Node.read?, scan?_sections hread, Option.bind_some]
  cases hsections : sections with
  | nil => rfl
  | cons s rest =>
    have htokens : mappingTokens (s :: rest)
        = .blockMappingStart :: ((s :: rest).flatMap tokens ++ [.blockEnd]) := rfl
    rw [hsections] at hparsed
    have hentries : blockEntries standardHandles (3 * (mappingTokens (s :: rest)).length + 3) []
        ((s :: rest).flatMap tokens ++ [.blockEnd]) = some ((s :: rest).map entry, [], []) := by
      refine blockEntries_sections hparsed ?_
      rw [htokens, List.length_cons, List.length_append, List.length_singleton]
      omega
    have hnode : node standardHandles true false (3 * (mappingTokens (s :: rest)).length + 4) []
        (mappingTokens (s :: rest)) = some (.mapping ((s :: rest).map entry), [], []) := by
      rw [htokens] at hentries ⊢
      simp only [node, properties?, Properties.announce, Properties.name, Properties.settle,
        hentries]
      rfl
    have hcontent : document? (mappingTokens (s :: rest))
        = some (.mapping ((s :: rest).map entry), []) := by
      have hbegins : endsDocument (mappingTokens (s :: rest)) = false := rfl
      rw [document?, hbegins]
      simp only [List.nil_append, hnode]
      rfl
    have hsome : (mappingTokens (s :: rest)).isEmpty = false := rfl
    rw [ofTokens?, hsome, hcontent]
    rfl

end Section
end GlyphGrid.Yaml
