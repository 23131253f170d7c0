import Mathlib.Data.String.Basic
import RequestQuery.Proofs.Json.Integer
import RequestQuery.Proofs.Json.Quoted
import RequestQuery.Proofs.Sorted

/-! # Reading values back

A value without binary64 numbers is written so that it can be read back.  Its
characters are read as its tokens (`IsExact.readsAs`); the tokens build one
document, inside whatever containers are open (`IsExact.completes`); and the
document has the value again unless its containers are nested too deeply
(`IsExact.ofDocument?_document`).  What is printed tells values apart in any case
(`IsExact.print_inj`).
-/
namespace RequestQuery
namespace Json

/-! ## Exact values -/

/-- The values that are read back as they were: those without binary64 numbers, whose integers fit in
64 bits with a sign or without one, and whose members are in ascending order of their names. -/
inductive IsExact : Json → Prop where
  | null : IsExact null
  | bool (b : Bool) : IsExact (bool b)
  | string (s : String) : IsExact (string s)
  | integer {i : Int} (hlow : -0x8000000000000000 ≤ i) (hhigh : i < 0x10000000000000000) :
    IsExact (number (.integer i))
  | array {items : List Json} (hitems : ∀ item ∈ items, IsExact item) : IsExact (array items)
  | object {members : Keyed Json} (hnames : members.names.Pairwise (· < ·))
    (hmembers : ∀ member ∈ members, IsExact member.2) : IsExact (object members)

mutual

/-- How deeply the containers of a value are nested. -/
def depth : Json → Nat
  | array items => itemsDepth items + 1
  | object members => membersDepth members + 1
  | _ => 0

/-- How deeply the containers among the items of an array are nested. -/
def itemsDepth : List Json → Nat
  | [] => 0
  | item :: rest => max (depth item) (itemsDepth rest)

/-- How deeply the containers among the members of an object are nested. -/
def membersDepth : List (String × Json) → Nat
  | [] => 0
  | (_, value) :: rest => max (depth value) (membersDepth rest)

end

mutual

/-- The tokens that a value is written with. -/
def tokens : Json → List Token
  | null => [.null]
  | bool b => [.bool b]
  | number (.integer i) => [.numeral (numeralOf i)]
  | number (.real _) => []
  | string s => [.text (letters s)]
  | array items => .openArray :: (itemTokens true items ++ [.closeArray])
  | object members => .openObject :: (memberTokens true members ++ [.closeObject])

/-- The tokens of the items of an array, a comma before each but the first. -/
def itemTokens (first : Bool) : List Json → List Token
  | [] => []
  | item :: rest => (if first then [] else [.comma]) ++ tokens item ++ itemTokens false rest

/-- The tokens of the members of an object, a comma before each but the first. -/
def memberTokens (first : Bool) : List (String × Json) → List Token
  | [] => []
  | (name, value) :: rest =>
    (if first then [] else [.comma]) ++ .text (letters name) :: .colon :: tokens value ++
      memberTokens false rest

end

mutual

/-- The document that a value is written as. -/
def document : Json → Document
  | null => .null
  | bool b => .bool b
  | number (.integer i) => .numeral (numeralOf i)
  | number (.real _) => .null
  | string s => .text (letters s)
  | array items => .array (itemDocuments items)
  | object members => .object (memberDocuments members)

/-- The documents of the items of an array. -/
def itemDocuments : List Json → List Document
  | [] => []
  | item :: rest => document item :: itemDocuments rest

/-- The documents of the members of an object. -/
def memberDocuments : List (String × Json) → List (List Letter × Document)
  | [] => []
  | (name, value) :: rest => (letters name, document value) :: memberDocuments rest

end

/-! ## From characters to tokens -/

theorem tokens?_nil : tokens? [] = some [] := by
  rw [tokens?]

theorem tokens?_of_readToken? {c : Char} {s rest : List Text.Symbol} {token : Token}
    (hc : isGap c = false) (h : readToken? (some c :: s) = some (token, rest)) :
    tokens? (some c :: s) = (tokens? rest).map (token :: ·) := by
  rw [tokens?, Option.any_some, if_neg (by simp [hc])]
  split
  · next h' =>
    rw [h] at h'
    cases h'
  · next h' =>
    rw [h] at h'
    cases h'
    rfl

theorem tokens?_quote (s : String) (rest : List Text.Symbol) :
    tokens? ((quote s).map some ++ rest) = (tokens? rest).map (.text (letters s) :: ·) :=
  tokens?_of_readToken? (by decide) (readToken?_quote s rest)

theorem tokens?_integer (i : Int) {rest : List Char} (h : Text.EndsRun isNumeralChar rest) :
    tokens? ((Text.signedDecimal i ++ rest).map some) =
      (tokens? (rest.map some)).map (.numeral (numeralOf i) :: ·) := by
  have hread := readToken?_signedDecimal i h
  obtain ⟨first, more, hs⟩ := List.exists_cons_of_ne_nil (signedDecimal_ne_nil i)
  have hfirst : isNumeralChar first = true :=
    isNumeralChar_of_mem_signedDecimal (hs ▸ List.mem_cons_self)
  -- The numeral begins at once: no character of a numeral is one that is passed over.
  have hgap : isGap first = false := by
    cases hg : isGap first with
    | false => rfl
    | true =>
      simp only [isGap, Bool.or_eq_true, beq_iff_eq] at hg
      rcases hg with ((rfl | rfl) | rfl) | rfl <;> exact absurd hfirst (by decide)
  rw [hs, List.cons_append, List.map_cons] at hread ⊢
  exact tokens?_of_readToken? hgap hread

/-- What is written as `s` is read as the tokens `ts`, if no numeral goes on behind it. -/
def ReadsAs (s : List Char) (ts : List Token) : Prop :=
  ∀ rest : List Char, Text.EndsRun isNumeralChar rest →
    tokens? ((s ++ rest).map some) = (tokens? (rest.map some)).map (ts ++ ·)

namespace ReadsAs

variable {s s' : List Char} {ts ts' : List Token}

theorem nil : ReadsAs [] [] := by
  intro rest hrest
  simp

/-- A token of one character may have anything behind it. -/
theorem cons {c : Char} {t : Token} (hgap : isGap c = false)
    (hread : ∀ rest, readToken? (some c :: rest) = some (t, rest)) (h : ReadsAs s ts) :
    ReadsAs (c :: s) (t :: ts) := by
  intro rest hrest
  rw [List.cons_append, List.map_cons, tokens?_of_readToken? hgap (hread _), h rest hrest,
    Option.map_map]
  rfl

theorem comma_cons (h : ReadsAs s ts) : ReadsAs (',' :: s) (.comma :: ts) :=
  cons (by decide) (fun _ => rfl) h

/-- What comes first must be followed by a character that no numeral has. -/
theorem append (h : ReadsAs s ts) (h' : ReadsAs s' ts')
    (hs' : ∃ c rest, s' = c :: rest ∧ isNumeralChar c = false) :
    ReadsAs (s ++ s') (ts ++ ts') := by
  obtain ⟨c, more, rfl, hc⟩ := hs'
  intro rest hrest
  have hends : Text.EndsRun isNumeralChar (c :: more ++ rest) := by
    rintro d ⟨⟩
    exact hc
  rw [List.append_assoc, h _ hends, h' rest hrest, Option.map_map]
  simp only [Function.comp_def, List.append_assoc]

/-- The name of a member and its colon. -/
theorem name_append (name : String) (h : ReadsAs s ts) :
    ReadsAs (quote name ++ ':' :: s) (.text (letters name) :: .colon :: ts) := by
  intro rest hrest
  have hcolon : ReadsAs (':' :: s) (.colon :: ts) := cons (by decide) (fun _ => rfl) h
  rw [List.append_assoc, List.map_append, tokens?_quote, hcolon rest hrest, Option.map_map]
  rfl

end ReadsAs

/-- Behind an item or a member comes a comma, or the end. -/
theorem exists_itemChars_false (items : List Json) :
    ∃ c rest, itemChars false items ++ [']'] = c :: rest ∧ isNumeralChar c = false := by
  cases items with
  | nil => exact ⟨']', [], rfl, by decide⟩
  | cons item more => exact ⟨',', chars item ++ itemChars false more ++ [']'], rfl, by decide⟩

theorem exists_memberChars_false (members : List (String × Json)) :
    ∃ c rest, memberChars false members ++ ['\x7d'] = c :: rest ∧ isNumeralChar c = false := by
  cases members with
  | nil => exact ⟨'\x7d', [], rfl, by decide⟩
  | cons member more =>
    exact ⟨',', quote member.1 ++ ':' :: chars member.2 ++ memberChars false more ++ ['\x7d'], rfl,
      by decide⟩

theorem readsAs_itemChars {items : List Json}
    (h : ∀ item ∈ items, ReadsAs item.chars item.tokens) (first : Bool) :
    ReadsAs (itemChars first items ++ [']']) (itemTokens first items ++ [.closeArray]) := by
  induction items generalizing first with
  | nil => exact .cons (by decide) (fun _ => rfl) .nil
  | cons item rest ih =>
    obtain ⟨hitem, hrest⟩ := List.forall_mem_cons.mp h
    have hboth := hitem.append (ih hrest false) (exists_itemChars_false rest)
    rw [← List.append_assoc, ← List.append_assoc] at hboth
    cases first with
    | true => exact hboth
    | false => exact hboth.comma_cons

theorem readsAs_memberChars {members : List (String × Json)}
    (h : ∀ member ∈ members, ReadsAs member.2.chars member.2.tokens) (first : Bool) :
    ReadsAs (memberChars first members ++ ['\x7d'])
      (memberTokens first members ++ [.closeObject]) := by
  induction members generalizing first with
  | nil => exact .cons (by decide) (fun _ => rfl) .nil
  | cons member rest ih =>
    obtain ⟨name, value⟩ := member
    obtain ⟨hvalue, hrest⟩ := List.forall_mem_cons.mp h
    have hboth := (hvalue.append (ih hrest false) (exists_memberChars_false rest)).name_append name
    cases first with
    | true => simpa [memberChars, memberTokens] using hboth
    | false => simpa [memberChars, memberTokens] using hboth.comma_cons

theorem readsAs_array {items : List Json}
    (h : ∀ item ∈ items, ReadsAs item.chars item.tokens) :
    ReadsAs (array items).chars (array items).tokens :=
  .cons (by decide) (fun _ => rfl) (readsAs_itemChars h true)

theorem readsAs_object {members : List (String × Json)}
    (h : ∀ member ∈ members, ReadsAs member.2.chars member.2.tokens) :
    ReadsAs (object members).chars (object members).tokens :=
  .cons (by decide) (fun _ => rfl) (readsAs_memberChars h true)

/-- A value is read as its tokens. -/
theorem IsExact.readsAs {v : Json} (h : v.IsExact) : ReadsAs v.chars v.tokens := by
  induction h with
  | null =>
    intro rest hrest
    exact tokens?_of_readToken? (by decide) rfl
  | bool b =>
    intro rest hrest
    cases b with
    | true => exact tokens?_of_readToken? (by decide) rfl
    | false => exact tokens?_of_readToken? (by decide) rfl
  | string s =>
    intro rest hrest
    rw [chars, List.map_append]
    exact tokens?_quote s _
  | integer hlow hhigh => exact fun rest hrest => tokens?_integer _ hrest
  | array hitems ih => exact readsAs_array ih
  | object hnames hmembers ih => exact readsAs_object ih

/-! ## From tokens to a document -/

namespace Document

/-- The tokens `ts` complete the document `d`, wherever a value may come and whatever follows. -/
def Completes (ts : List Token) (d : Document) : Prop :=
  ∀ (frames : List Frame) (mayClose : Bool) (rest : List Token),
    run (ts ++ rest) ⟨frames, .value mayClose⟩ = run rest (complete d frames)

theorem run_cons {state state' : State} {t : Token} (h : step state t = some state')
    (rest : List Token) : run (t :: rest) state = run rest state' := by
  rw [run, h, Option.bind_some]

/-- The items behind the first one are added to those that there are, up to the end of the array. -/
theorem run_itemTokens {items : List Json}
    (h : ∀ item ∈ items, Completes item.tokens item.document)
    (done : List Document) (frames : List Frame) (rest : List Token) :
    run (itemTokens false items ++ .closeArray :: rest) ⟨.array done :: frames, .more⟩ =
      run rest (complete (.array (done.reverse ++ itemDocuments items)) frames) := by
  induction items generalizing done with
  | nil =>
    rw [itemDocuments, List.append_nil]
    exact run_cons rfl rest
  | cons item more ih =>
    obtain ⟨hitem, hmore⟩ := List.forall_mem_cons.mp h
    have hstep : step ⟨.array done :: frames, .more⟩ .comma =
        some ⟨.array done :: frames, .value false⟩ := rfl
    rw [itemTokens, if_neg Bool.false_ne_true, List.append_assoc, List.append_assoc,
      List.singleton_append, run_cons hstep, hitem, complete, ih hmore, itemDocuments,
      List.reverse_cons, List.append_assoc, List.singleton_append]

/-- The members behind the first one are added to those that there are, up to the end of the object. -/
theorem run_memberTokens {members : List (String × Json)}
    (h : ∀ member ∈ members, Completes member.2.tokens member.2.document)
    (done : List (List Letter × Document)) (last : List Letter) (frames : List Frame)
    (rest : List Token) :
    run (memberTokens false members ++ .closeObject :: rest) ⟨.object done last :: frames, .more⟩ =
      run rest (complete (.object (done.reverse ++ memberDocuments members)) frames) := by
  induction members generalizing done last with
  | nil =>
    rw [memberDocuments, List.append_nil]
    exact run_cons rfl rest
  | cons member more ih =>
    obtain ⟨name, value⟩ := member
    obtain ⟨hvalue, hmore⟩ := List.forall_mem_cons.mp h
    have hcomma : step ⟨.object done last :: frames, .more⟩ .comma =
        some ⟨frames, .name done false⟩ := rfl
    have hname : step ⟨frames, .name done false⟩ (.text (letters name)) =
        some ⟨frames, .colon done (letters name)⟩ := rfl
    have hcolon : step ⟨frames, .colon done (letters name)⟩ .colon =
        some ⟨.object done (letters name) :: frames, .value false⟩ := rfl
    rw [memberTokens, if_neg Bool.false_ne_true]
    simp only [List.append_assoc, List.cons_append, List.nil_append]
    rw [run_cons hcomma, run_cons hname, run_cons hcolon, hvalue, complete, ih hmore,
      memberDocuments, List.reverse_cons, List.append_assoc, List.singleton_append]

theorem completes_array {items : List Json}
    (h : ∀ item ∈ items, Completes item.tokens item.document) :
    Completes (Json.array items).tokens (Json.array items).document := by
  intro frames mayClose rest
  have hopen : step ⟨frames, .value mayClose⟩ .openArray =
      some ⟨.array [] :: frames, .value true⟩ := by
    cases mayClose <;> rfl
  rw [tokens, List.cons_append, run_cons hopen, Json.document, List.append_assoc]
  cases items with
  | nil => exact run_cons rfl rest
  | cons item more =>
    obtain ⟨hitem, hmore⟩ := List.forall_mem_cons.mp h
    rw [itemTokens, if_pos rfl, List.nil_append, List.append_assoc, hitem, complete]
    exact run_itemTokens hmore [item.document] frames rest

theorem completes_object {members : List (String × Json)}
    (h : ∀ member ∈ members, Completes member.2.tokens member.2.document) :
    Completes (Json.object members).tokens (Json.object members).document := by
  intro frames mayClose rest
  have hopen : step ⟨frames, .value mayClose⟩ .openObject = some ⟨frames, .name [] true⟩ := by
    cases mayClose <;> rfl
  rw [tokens, List.cons_append, run_cons hopen, Json.document, List.append_assoc]
  cases members with
  | nil => exact run_cons rfl rest
  | cons member more =>
    obtain ⟨name, value⟩ := member
    obtain ⟨hvalue, hmore⟩ := List.forall_mem_cons.mp h
    have hname : step ⟨frames, .name [] true⟩ (.text (letters name)) =
        some ⟨frames, .colon [] (letters name)⟩ := rfl
    have hcolon : step ⟨frames, .colon [] (letters name)⟩ .colon =
        some ⟨.object [] (letters name) :: frames, .value false⟩ := rfl
    rw [memberTokens, if_pos rfl, List.nil_append, List.cons_append, List.cons_append,
      List.append_assoc, List.cons_append, List.cons_append, run_cons hname, run_cons hcolon,
      hvalue, complete]
    exact run_memberTokens hmore [(letters name, value.document)] (letters name) frames rest

/-- What is read as its tokens, which complete its document, is read as that document. -/
theorem read?_chars {v : Json} (hreads : ReadsAs v.chars v.tokens)
    (hcompletes : Completes v.tokens v.document) : read? (v.chars.map some) = some v.document := by
  have htokens := hreads [] (by rintro c ⟨⟩)
  have hrun := hcompletes [] false []
  rw [List.append_nil, List.map_nil, tokens?_nil, Option.map_some, List.append_nil] at htokens
  rw [List.append_nil] at hrun
  simp only [read?, htokens, hrun, Option.bind_eq_bind, Option.bind_some]
  rfl

end Document

/-- The tokens of a value complete its document. -/
theorem IsExact.completes {v : Json} (h : v.IsExact) : Document.Completes v.tokens v.document := by
  induction h with
  | null | bool b | string s | integer hlow hhigh =>
    intro frames mayClose rest
    cases mayClose <;> exact Document.run_cons rfl rest
  | array hitems ih => exact Document.completes_array ih
  | object hnames hmembers ih => exact Document.completes_object ih

/-! ## From a document to the value -/

theorem ofItems?_itemDocuments {items : List Json} {depth : Nat}
    (h : ∀ item ∈ items, ofDocument? depth item.document = if item.depth ≤ depth then some item else none) :
    ofItems? depth (itemDocuments items) = if itemsDepth items ≤ depth then some items else none := by
  induction items with
  | nil => rw [itemDocuments, ofItems?, itemsDepth, if_pos (Nat.zero_le _)]
  | cons item rest ih =>
    obtain ⟨hitem, hrest⟩ := List.forall_mem_cons.mp h
    rw [itemDocuments, ofItems?, hitem, ih hrest, itemsDepth]
    by_cases hd : item.depth ≤ depth
    · by_cases hr : itemsDepth rest ≤ depth
      · simp [hd, hr]
      · simp [hd, hr]
    · simp [hd]

theorem ofEntries?_memberDocuments {members : List (String × Json)} {depth : Nat}
    (h : ∀ member ∈ members, ofDocument? depth member.2.document =
      if member.2.depth ≤ depth then some member.2 else none) :
    ofEntries? depth (memberDocuments members) =
      if membersDepth members ≤ depth then some members else none := by
  induction members with
  | nil => rw [memberDocuments, ofEntries?, membersDepth, if_pos (Nat.zero_le _)]
  | cons member rest ih =>
    obtain ⟨name, value⟩ := member
    obtain ⟨hvalue, hrest⟩ := List.forall_mem_cons.mp h
    rw [memberDocuments, ofEntries?, text?_letters, hvalue, ih hrest, membersDepth]
    by_cases hd : value.depth ≤ depth
    · by_cases hr : membersDepth rest ≤ depth
      · simp [hd, hr]
      · simp [hd, hr]
    · simp [hd]

/-- A value is read back exactly if it is not nested more deeply than documents may be. -/
theorem IsExact.ofDocument?_document {v : Json} (h : v.IsExact) (depth : Nat) :
    ofDocument? depth v.document = if v.depth ≤ depth then some v else none := by
  induction h generalizing depth with
  | null | bool b => simp [document, ofDocument?, Json.depth]
  | string s => simp [document, ofDocument?, Json.depth, text?_letters]
  | integer hlow hhigh => simp [document, ofDocument?, Json.depth, number?_numeralOf hlow hhigh]
  | array hitems ih =>
    rw [document, ofDocument?, Json.depth]
    cases depth with
    | zero => simp
    | succ n =>
      rw [if_neg (Nat.succ_ne_zero n), Nat.add_sub_cancel, ofItems?_itemDocuments fun item h => ih item h n]
      simp only [Nat.add_le_add_iff_right]
      split <;> rfl
  | object hnames hmembers ih =>
    rw [document, ofDocument?, Json.depth]
    cases depth with
    | zero => simp
    | succ n =>
      rw [if_neg (Nat.succ_ne_zero n), Nat.add_sub_cancel,
        ofEntries?_memberDocuments fun member h => ih member h n]
      simp only [Nat.add_le_add_iff_right]
      split
      · rw [Option.map_some, ofMembers, Keyed.sorted_of_pairwise hnames]
      · rfl

/-- **A printed value is read back** if it is not nested more deeply than documents may be. -/
theorem IsExact.read?_print {v : Json} (h : v.IsExact) :
    read? v.print = if v.depth ≤ depthLimit then some v else none := by
  rw [read?, print, String.toList_ofList, Document.read?_chars h.readsAs h.completes, Option.bind_some,
    h.ofDocument?_document]

/-- **Values are told apart** by what is printed, however deeply they are nested. -/
theorem IsExact.print_inj {v w : Json} (hv : v.IsExact) (hw : w.IsExact) : v.print = w.print ↔ v = w := by
  constructor
  · intro h
    have hchars : v.chars = w.chars := String.ofList_injective h
    have hdocument : v.document = w.document := by
      have hread := Document.read?_chars hv.readsAs hv.completes
      rw [hchars, Document.read?_chars hw.readsAs hw.completes] at hread
      exact (Option.some.inj hread).symm
    have hv := hv.ofDocument?_document (max v.depth w.depth)
    rw [hdocument, hw.ofDocument?_document, if_pos (Nat.le_max_left ..), if_pos (Nat.le_max_right ..)] at hv
    exact (Option.some.inj hv).symm
  · rintro rfl
    rfl

end Json
end RequestQuery
