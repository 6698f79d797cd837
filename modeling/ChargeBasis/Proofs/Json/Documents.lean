import ChargeBasis.Json.Decode
import ChargeBasis.Proofs.Json.Tokens

/-!
Reading written JSON text. A value whose numbers are integers and whose texts have characters is
read back from its text in one line and from its text with one item a line.
-/

namespace ChargeBasis.Json

-----------------------------------------------------------------------------------------
-- Plain values
-----------------------------------------------------------------------------------------

/-- The numbers of a value are integers, and its texts and keys have characters. -/
def IsPlain (value : Json) : Prop :=
  ∀ token ∈ value.tokens, token.IsPlain

theorem isPlain_null
    : Json.null.IsPlain := by
  simp [IsPlain, tokens, Token.IsPlain]

theorem isPlain_bool (value : Bool)
    : (Json.bool value).IsPlain := by
  simp [IsPlain, tokens, Token.IsPlain]

theorem isPlain_text (value : String)
    : (Json.text value).IsPlain := by
  simp [IsPlain, tokens, Token.IsPlain]

theorem isPlain_ofInt (n : Int)
    : (ofInt n).IsPlain := by
  simp [IsPlain, ofInt, tokens, Token.IsPlain]

theorem isPlain_ofNat (n : Nat)
    : (ofNat n).IsPlain :=
  isPlain_ofInt n

theorem isPlain_of_mem_tokensOfItems {items : List Json} (plain : ∀ item ∈ items, item.IsPlain)
    : ∀ token ∈ tokensOfItems items, token.IsPlain := by
  induction items with
  | nil => simp [tokensOfItems, Token.IsPlain]
  | cons item items ih =>
      rw [List.forall_mem_cons] at plain
      rw [tokensOfItems, List.forall_mem_cons, List.forall_mem_append]
      exact ⟨trivial, plain.1, ih plain.2⟩

theorem isPlain_array {items : List Json} (plain : ∀ item ∈ items, item.IsPlain)
    : (array items).IsPlain := by
  cases items with
  | nil => simp [IsPlain, tokens, Token.IsPlain]
  | cons item items =>
      rw [List.forall_mem_cons] at plain
      rw [IsPlain, tokens, List.forall_mem_cons, List.forall_mem_append]
      exact ⟨trivial, plain.1, isPlain_of_mem_tokensOfItems plain.2⟩

theorem isPlain_of_mem_tokensOfMembers {members : List (String × Json)}
    (plain : ∀ member ∈ members, member.2.IsPlain)
    : ∀ token ∈ tokensOfMembers members, token.IsPlain := by
  induction members with
  | nil => simp [tokensOfMembers, Token.IsPlain]
  | cons member members ih =>
      rw [List.forall_mem_cons] at plain
      rw [tokensOfMembers]
      simp only [List.forall_mem_cons, List.forall_mem_append]
      exact ⟨trivial, ⟨_, rfl⟩, trivial, plain.1, ih plain.2⟩

theorem isPlain_object {members : List (String × Json)}
    (plain : ∀ member ∈ members, member.2.IsPlain)
    : (object members).IsPlain := by
  cases members with
  | nil => simp [IsPlain, tokens, Token.IsPlain]
  | cons member members =>
      rw [List.forall_mem_cons] at plain
      rw [IsPlain, tokens]
      simp only [List.forall_mem_cons, List.forall_mem_append]
      exact ⟨trivial, ⟨_, rfl⟩, trivial, plain.1, isPlain_of_mem_tokensOfMembers plain.2⟩

-----------------------------------------------------------------------------------------
-- Words stand apart
-----------------------------------------------------------------------------------------

/-- The tokens do not start with a word. -/
def StartsWithMark (tokens : List Token) : Prop :=
  ∀ token ∈ tokens.head?, token.isWord = false

theorem Separated.before {token : Token} {tokens : List Token} (separated : Separated tokens)
    (marked : StartsWithMark tokens)
    : Separated (token :: tokens) :=
  List.IsChain.cons separated fun next first _ => marked next first

theorem Separated.mark {token : Token} {tokens : List Token} (separated : Separated tokens)
    (mark : token.isWord = false)
    : Separated (token :: tokens) := by
  refine List.IsChain.cons separated fun next first isWord => ?_
  rw [mark] at isWord
  cases isWord

theorem startsWithMark_items (items : List Json) (rest : List Token)
    : StartsWithMark (tokensOfItems items ++ rest) := by
  cases items <;> simp [tokensOfItems, StartsWithMark, Token.isWord]

theorem startsWithMark_members (members : List (String × Json)) (rest : List Token)
    : StartsWithMark (tokensOfMembers members ++ rest) := by
  cases members <;> simp [tokensOfMembers, StartsWithMark, Token.isWord]

mutual

/-- The words of a value stand apart, also from what comes behind the value. Values, items and
members are written by each other, so this is shown of all three at once, by induction on their
size.
-/
theorem separated_tokens (value : Json) {rest : List Token} (separated : Separated rest)
    (marked : StartsWithMark rest)
    : Separated (value.tokens ++ rest) := by
  cases value with
  | null | bool | number | text | unreadable =>
      rw [tokens]
      exact separated.before marked
  | array items =>
      cases items with
      | nil =>
          rw [tokens]
          exact (separated.mark rfl).mark rfl
      | cons item items =>
          rw [tokens, List.cons_append, List.append_assoc]
          exact (separated_tokens item (separated_items items separated)
            (startsWithMark_items items rest)).mark rfl
  | object members =>
      cases members with
      | nil =>
          rw [tokens]
          exact (separated.mark rfl).mark rfl
      | cons member members =>
          obtain ⟨key, value⟩ := member
          rw [tokens, List.cons_append, List.cons_append, List.cons_append, List.append_assoc]
          exact (((separated_tokens value (separated_members members separated)
            (startsWithMark_members members rest)).mark rfl).mark rfl).mark rfl
termination_by sizeOf value

theorem separated_items (items : List Json) {rest : List Token} (separated : Separated rest)
    : Separated (tokensOfItems items ++ rest) := by
  cases items with
  | nil =>
      rw [tokensOfItems]
      exact separated.mark rfl
  | cons item items =>
      rw [tokensOfItems, List.cons_append, List.append_assoc]
      exact (separated_tokens item (separated_items items separated)
        (startsWithMark_items items rest)).mark rfl
termination_by sizeOf items

theorem separated_members (members : List (String × Json)) {rest : List Token}
    (separated : Separated rest)
    : Separated (tokensOfMembers members ++ rest) := by
  cases members with
  | nil =>
      rw [tokensOfMembers]
      exact separated.mark rfl
  | cons member members =>
      obtain ⟨key, value⟩ := member
      rw [tokensOfMembers, List.cons_append, List.cons_append, List.cons_append,
        List.append_assoc]
      exact (((separated_tokens value (separated_members members separated)
        (startsWithMark_members members rest)).mark rfl).mark rfl).mark rfl
termination_by sizeOf members

end

-----------------------------------------------------------------------------------------
-- Layouts
-----------------------------------------------------------------------------------------

mutual

/-- One item a line, a value is written with the same tokens as in one line; again by induction on
the size of values, items and members.
-/
theorem token?_layout (level : Nat) (value : Json)
    : (layout level value).filterMap LayoutPart.token? = value.tokens := by
  cases value with
  | null | bool | number | text | unreadable => rfl
  | array items =>
      cases items with
      | nil => rfl
      | cons item items =>
          simp [layout, tokens, LayoutPart.token?, List.filterMap_cons,
            token?_layout (level + 1) item, token?_layoutItems level items]
  | object members =>
      cases members with
      | nil => rfl
      | cons member members =>
          obtain ⟨key, value⟩ := member
          simp [layout, tokens, LayoutPart.token?, List.filterMap_cons,
            token?_layout (level + 1) value, token?_layoutMembers level members]
termination_by sizeOf value

theorem token?_layoutItems (level : Nat) (items : List Json)
    : (layoutItems level items).filterMap LayoutPart.token? = tokensOfItems items := by
  cases items with
  | nil => rfl
  | cons item items =>
      simp [layoutItems, tokensOfItems, LayoutPart.token?, List.filterMap_cons,
        token?_layout (level + 1) item, token?_layoutItems level items]
termination_by sizeOf items

theorem token?_layoutMembers (level : Nat) (members : List (String × Json))
    : (layoutMembers level members).filterMap LayoutPart.token? = tokensOfMembers members := by
  cases members with
  | nil => rfl
  | cons member members =>
      obtain ⟨key, value⟩ := member
      simp [layoutMembers, tokensOfMembers, LayoutPart.token?, List.filterMap_cons,
        token?_layout (level + 1) value, token?_layoutMembers level members]
termination_by sizeOf members

end

-----------------------------------------------------------------------------------------
-- Values
-----------------------------------------------------------------------------------------

/-- The members as they are kept while their object is read. -/
def opened (members : List (String × Json)) : OpenMembers :=
  members.map fun (key, value) => (some key, value)

/-- Every member has a key with characters, by induction over the members. -/
theorem mapM_opened {f : Option String × Json → Option (String × Json)}
    (keeps : ∀ key value, f (some key, value) = some (key, value))
    (members : List (String × Json))
    : (opened members).mapM f = some members := by
  induction members with
  | nil => rfl
  | cons member members ih =>
      rw [opened] at ih
      rw [opened, List.map_cons, List.mapM_cons, ih, keeps]
      rfl

theorem closeObject_opened (members : List (String × Json))
    : closeObject (opened members).reverse = .object members := by
  rw [closeObject, List.reverse_reverse, mapM_opened fun _ _ => rfl]

/-- The first token of a value ends no array. -/
theorem exists_tokens_eq_cons (value : Json)
    : ∃ token others, value.tokens = token :: others ∧ token ≠ .endArray := by
  cases value with
  | null | bool | number | text | unreadable => exact ⟨_, [], by rw [tokens], by simp⟩
  | array items =>
      cases items <;> exact ⟨_, _, by rw [tokens], by simp⟩
  | object members =>
      cases members <;> exact ⟨_, _, by rw [tokens], by simp⟩

namespace Expecting

/-- The first item of an array is read like any other. -/
theorem foldlM_firstItem (item : Json) (rest : List Token) (outer : List Frame)
    : (item.tokens ++ rest).foldlM step (.firstItem outer)
      = (item.tokens ++ rest).foldlM step (.anyValue (.item [] :: outer)) := by
  obtain ⟨token, others, first, goesOn⟩ := item.exists_tokens_eq_cons
  have same : step (.firstItem outer) token = step (.anyValue (.item [] :: outer)) token := by
    cases token <;> first | rfl | exact absurd rfl goesOn
  rw [first, List.cons_append, List.foldlM_cons, List.foldlM_cons, same]

mutual

/-- From the tokens of a value the reader makes the value, which then takes its place. For items and
members the induction also carries what was read of the array or object before them.
-/
theorem foldlM_tokens (value : Json) (rest : List Token) (outer : List Frame)
    : (value.tokens ++ rest).foldlM step (.anyValue outer)
      = rest.foldlM step (complete value outer) := by
  cases value with
  | null | bool | number | text | unreadable => rfl
  | array items =>
      cases items with
      | nil => rfl
      | cons item items =>
          rw [tokens, List.cons_append, List.append_assoc]
          calc (item.tokens ++ (tokensOfItems items ++ rest)).foldlM step (.firstItem outer)
              = (item.tokens ++ (tokensOfItems items ++ rest)).foldlM step
                  (.anyValue (.item [] :: outer)) := foldlM_firstItem item _ outer
            _ = (tokensOfItems items ++ rest).foldlM step (.itemEnd [item] outer) :=
              foldlM_tokens item _ (.item [] :: outer)
            _ = rest.foldlM step (complete (.array (item :: items)) outer) :=
              foldlM_items [item] items rest outer
  | object members =>
      cases members with
      | nil => rfl
      | cons member members =>
          obtain ⟨key, value⟩ := member
          rw [tokens, List.cons_append, List.cons_append, List.cons_append, List.append_assoc]
          calc (value.tokens ++ (tokensOfMembers members ++ rest)).foldlM step
                (.anyValue (.member [] (some key) :: outer))
              = (tokensOfMembers members ++ rest).foldlM step
                  (.memberEnd [(some key, value)] outer) :=
                foldlM_tokens value _ (.member [] (some key) :: outer)
            _ = rest.foldlM step (complete (.object ((key, value) :: members)) outer) :=
              foldlM_members [(key, value)] members rest outer
termination_by sizeOf value

theorem foldlM_items (before items : List Json) (rest : List Token) (outer : List Frame)
    : (tokensOfItems items ++ rest).foldlM step (.itemEnd before.reverse outer)
      = rest.foldlM step (complete (.array (before ++ items)) outer) := by
  cases items with
  | nil =>
      have closed : step (.itemEnd before.reverse outer) .endArray
          = some (complete (.array before) outer) := by
        rw [step, List.reverse_reverse]
      rw [tokensOfItems, List.cons_append, List.foldlM_cons, closed, List.append_nil]
      rfl
  | cons item items =>
      rw [tokensOfItems, List.cons_append, List.append_assoc]
      calc (item.tokens ++ (tokensOfItems items ++ rest)).foldlM step
            (.anyValue (.item before.reverse :: outer))
          = (tokensOfItems items ++ rest).foldlM step (.itemEnd (item :: before.reverse) outer) :=
            foldlM_tokens item _ (.item before.reverse :: outer)
        _ = rest.foldlM step (complete (.array (before ++ item :: items)) outer) := by
            simpa using foldlM_items (before ++ [item]) items rest outer
termination_by sizeOf items

theorem foldlM_members (before members : List (String × Json)) (rest : List Token)
    (outer : List Frame)
    : (tokensOfMembers members ++ rest).foldlM step (.memberEnd (opened before).reverse outer)
      = rest.foldlM step (complete (.object (before ++ members)) outer) := by
  cases members with
  | nil =>
      have closed : step (.memberEnd (opened before).reverse outer) .endObject
          = some (complete (.object before) outer) := by
        rw [step, closeObject_opened]
      rw [tokensOfMembers, List.cons_append, List.foldlM_cons, closed, List.append_nil]
      rfl
  | cons member members =>
      obtain ⟨key, value⟩ := member
      rw [tokensOfMembers, List.cons_append, List.cons_append, List.cons_append,
        List.append_assoc]
      calc (value.tokens ++ (tokensOfMembers members ++ rest)).foldlM step
            (.anyValue (.member (opened before).reverse (some key) :: outer))
          = (tokensOfMembers members ++ rest).foldlM step
              (.memberEnd ((some key, value) :: (opened before).reverse) outer) :=
            foldlM_tokens value _ (.member (opened before).reverse (some key) :: outer)
        _ = rest.foldlM step (complete (.object (before ++ (key, value) :: members)) outer) := by
            simpa [opened] using foldlM_members (before ++ [(key, value)]) members rest outer
termination_by sizeOf members

end

end Expecting

/-- The tokens of a value write the value. -/
theorem ofTokens?_tokens (value : Json)
    : ofTokens? value.tokens = some value := by
  have whole := Expecting.foldlM_tokens value [] []
  rw [List.append_nil] at whole
  rw [ofTokens?, whole]
  rfl

/-- A layout is read back as the value whose tokens it has. -/
theorem parse_layout {value : Json} (plain : value.IsPlain) {parts : List LayoutPart}
    (same : parts.filterMap LayoutPart.token? = value.tokens)
    : parse (String.ofList (parts.flatMap LayoutPart.chars)) = some value := by
  have separated : Separated (value.tokens ++ []) :=
    separated_tokens value .nil (by simp [StartsWithMark])
  rw [List.append_nil] at separated
  rw [parse, String.toList_ofList, tokenize_layout (same ▸ separated) (same ▸ plain), same,
    Option.bind_some, ofTokens?_tokens]

/-- A plain value is read back from its text in one line. -/
theorem parse_compact {value : Json} (plain : value.IsPlain)
    : parse value.compact = some value := by
  have line : value.tokens.flatMap Token.chars
      = (value.tokens.map LayoutPart.token).flatMap LayoutPart.chars := by
    rw [List.flatMap_map]
    rfl
  rw [compact, line]
  exact parse_layout plain (by rw [List.filterMap_map]; exact List.filterMap_some)

/-- A plain value is read back from its text with one item a line. -/
theorem parse_pretty {value : Json} (plain : value.IsPlain)
    : parse value.pretty = some value :=
  parse_layout plain (token?_layout 0 value)

/-- What is read from a text is read from the value that the text is of. -/
theorem exists_of_decodeText {α : Type} {decode : Decoder α} {s : String} {a : α}
    (reads : decodeText decode s = .ok a)
    : ∃ j, parse s = some j ∧ decode j = .ok a := by
  unfold decodeText at reads
  split at reads
  · next j parses => exact ⟨j, parses, reads⟩
  · cases reads

/-- Something is read back from its JSON texts, from the one in one line and from the one with one
item a line.
-/
def ReadsBack {α : Type} (encode : α → Json) (decode : Decoder α) (a b : α) : Prop :=
  decodeText decode (encode a).compact = .ok b ∧ decodeText decode (encode a).pretty = .ok b

/-- What is encoded as a plain value is read back if the value is. -/
theorem ReadsBack.of_isPlain {α : Type} {encode : α → Json} {decode : Decoder α} {a b : α}
    (plain : (encode a).IsPlain) (reads : decode (encode a) = .ok b)
    : ReadsBack encode decode a b := by
  rw [ReadsBack, decodeText, decodeText, parse_compact plain, parse_pretty plain]
  exact ⟨reads, reads⟩

end ChargeBasis.Json
