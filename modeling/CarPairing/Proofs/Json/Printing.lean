import CarPairing.Proofs.Json.Lexing

/-!
A printed value is read as the document it is printed for, in either layout.
Values are taken together from their parts, as the reader takes them apart.
-/

namespace CarPairing.Json

namespace Document

theorem steps_append (reading : Reading) (first second : List Token) :
    steps? reading (first ++ second) =
      (steps? reading first).bind fun middle => steps? middle second := by
  induction first generalizing reading with
  | nil => rfl
  | cons token rest ih =>
      simp only [List.cons_append, steps?]
      cases step? reading token with
      | none => rfl
      | some next => exact ih next

/-- Where a value is expected, the tokens are read as this one. -/
def Parses (tokens : List Token) (document : Document) : Prop :=
  ∀ outer, steps? (.value outer) tokens = some (.after document outer)

end Document

/-- The printed value is read as the document. -/
def Printed (layout : Layout) (value : Value) (document : Document) : Prop :=
  ∃ tokens, Token.Pends (value.print layout) tokens ∧ Document.Parses tokens document

theorem printed_string (layout : Layout) (text : String) :
    Printed layout (.string text) (.text (Token.pieces text)) :=
  ⟨[.text (Token.pieces text)], (Token.lexes_quote text).pends, fun _ => rfl⟩

theorem printed_integer (layout : Layout) (value : Int) :
    Printed layout (.number (.integer value)) (.number (Numeral.ofInt value)) :=
  ⟨[.number (Numeral.ofInt value)], Token.pends_integer value, fun _ => rfl⟩

/-- The members of an object, printed in this layout: the tokens of each, and
what they are read as. -/
inductive Members (layout : Layout) : List (String × Value) → List (List Token) →
    List (List Piece × Document) → Prop where
  | nil : Members layout [] [] []
  | cons (key : String) {value : Value} {document : Document} {tokens : List Token}
      {members : List (String × Value)} {rows : List (List Token)}
      {documents : List (List Piece × Document)} (pends : Token.Pends (value.print layout) tokens)
      (parses : Document.Parses tokens document) (rest : Members layout members rows documents) :
      Members layout ((key, value) :: members)
        ((.text (Token.pieces key) :: .colon :: tokens) :: rows)
        ((Token.pieces key, document) :: documents)

namespace Members

variable {layout inner : Layout} {members more : List (String × Value)}
variable {rows others : List (List Token)} {documents rest : List (List Piece × Document)}

theorem append (first : Members layout members rows documents)
    (second : Members layout more others rest) :
    Members layout (members ++ more) (rows ++ others) (documents ++ rest) := by
  induction first with
  | nil => exact second
  | cons key pends parses _ ih => exact .cons key pends parses ih

theorem pends_member (layout : Layout) (key : String) {value : Value} {tokens : List Token}
    (pends : Token.Pends (value.print layout) tokens) :
    Token.Pends (layout.lineBreak ++ Value.printMember layout (key, value))
      (.text (Token.pieces key) :: .colon :: tokens) := by
  have named := (Token.lexes_quote key).append (Token.lexes_colon layout)
  exact (Token.lexes_lineBreak layout).pends_append (named.pends_append pends)

/-- What stands after the first member of an object. -/
def remainder (outer inner : Layout) (members : List (String × Value)) : List Char :=
  members.flatMap (fun member => ',' :: (inner.lineBreak ++ Value.printMember inner member)) ++
    (outer.lineBreak ++ ['\x7d'])

theorem remainder_opens (outer inner : Layout) (members : List (String × Value)) :
    ∃ next rest, remainder outer inner members = next :: rest ∧ Token.Ends next := by
  cases members with
  | cons member rest => exact ⟨',', _, rfl, rfl, rfl⟩
  | nil =>
      cases outer with
      | compact => exact ⟨'\x7d', _, rfl, rfl, rfl⟩
      | indented depth => exact ⟨'\n', _, rfl, rfl, rfl⟩

theorem lexes_remainder (outer : Layout) (read : Members inner members rows documents) :
    Token.Lexes (remainder outer inner members) (rows.flatMap (.comma :: ·) ++ [.closeObject]) := by
  induction read with
  | nil =>
      have close : Token.Lexes ['\x7d'] [.closeObject] := Token.lexes_punctuation fun _ => rfl
      exact (Token.lexes_lineBreak outer).append close
  | @cons key value document tokens members rows documents pends _ _ ih =>
      have comma : Token.Lexes [','] [.comma] := Token.lexes_punctuation fun _ => rfl
      have member := comma.pends_append (pends_member inner key pends)
      have whole := member.append ih (remainder_opens outer inner members)
      simpa [remainder, List.append_assoc] using whole

theorem steps_remainder (read : Members inner members rows documents)
    (before : List (List Piece × Document)) (key : List Piece) (value : Document)
    (outer : List Document.Frame) :
    Document.steps? (.after value (.member before key :: outer))
        (rows.flatMap (.comma :: ·) ++ [.closeObject]) =
      some (.after (.object (((key, value) :: before).reverse ++ documents)) outer) := by
  induction read generalizing before key value with
  | nil => simp [Document.steps?, Document.step?, Document.continue?]
  | @cons name _ document tokens _ rows _ _ parses _ ih =>
      have next := ih ((key, value) :: before) (Token.pieces name) document
      simp only [List.flatMap_cons, List.cons_append, List.append_assoc, Document.steps?,
        Document.step?, Document.continue?]
      rw [Document.steps_append, parses]
      simpa using next

end Members

theorem intercalate_cons {α : Type} (separator : α) (first : List α) (rest : List (List α)) :
    List.intercalate [separator] (first :: rest) =
      first ++ rest.flatMap fun item => separator :: item := by
  induction rest generalizing first with
  | nil => simp [List.intercalate]
  | cons second rest ih =>
      have tail := ih second
      simp only [List.intercalate, List.intersperse] at tail ⊢
      simp [tail]

theorem printMembers_map (layout : Layout) (members : List (String × Value)) :
    Value.printMembers layout members = members.map (Value.printMember layout) := by
  induction members with
  | nil => rfl
  | cons member rest ih => simp [Value.printMembers, ih]

theorem print_object (layout : Layout) (member : String × Value) (rest : List (String × Value)) :
    (Value.object (member :: rest)).print layout =
      ['\x7b'] ++ (layout.deeper.lineBreak ++ Value.printMember layout.deeper member) ++
        Members.remainder layout layout.deeper rest := by
  rw [Value.print, printMembers_map, List.map_cons, Layout.enclose, List.map_cons,
    intercalate_cons]
  · simp [Members.remainder, List.flatMap_map]
  · simp

theorem printed_object {layout : Layout} {members : List (String × Value)}
    {rows : List (List Token)} {documents : List (List Piece × Document)}
    (read : Members layout.deeper members rows documents) :
    Printed layout (.object members) (.object documents) := by
  have brace : Token.Lexes ['\x7b'] [.openObject] := Token.lexes_punctuation fun _ => rfl
  cases read with
  | nil =>
      have close : Token.Lexes ['\x7d'] [.closeObject] := Token.lexes_punctuation fun _ => rfl
      exact ⟨_, (brace.append close).pends, fun _ => rfl⟩
  | @cons key value document tokens members rows documents pends parses rest =>
      have first := brace.pends_append (Members.pends_member layout.deeper key pends)
      have whole := first.append (rest.lexes_remainder layout)
        (Members.remainder_opens layout layout.deeper members)
      rw [← print_object] at whole
      refine ⟨_, whole.pends, ?_⟩
      intro outer
      have members := rest.steps_remainder [] (Token.pieces key) document outer
      simp only [List.cons_append, List.nil_append, Document.steps?, Document.step?,
        Document.begin?]
      rw [Document.steps_append, parses]
      simpa using members

/-- The members are read as these documents under their names. -/
def Listed (layout : Layout) (members : List (String × Value))
    (documents : List (List Piece × Document)) : Prop :=
  ∃ rows, Members layout members rows documents

namespace Listed

variable {layout : Layout} {members more : List (String × Value)}
variable {documents rest : List (List Piece × Document)}

theorem nil : Listed layout [] [] :=
  ⟨[], .nil⟩

theorem cons (key : String) {value : Value} {document : Document}
    (printed : Printed layout value document) (listed : Listed layout members documents) :
    Listed layout ((key, value) :: members) ((Token.pieces key, document) :: documents) := by
  obtain ⟨tokens, pends, parses⟩ := printed
  obtain ⟨rows, read⟩ := listed
  exact ⟨_, .cons key pends parses read⟩

theorem append (first : Listed layout members documents) (second : Listed layout more rest) :
    Listed layout (members ++ more) (documents ++ rest) := by
  obtain ⟨rows, one⟩ := first
  obtain ⟨others, two⟩ := second
  exact ⟨rows ++ others, one.append two⟩

theorem object (listed : Listed layout.deeper members documents) :
    Printed layout (.object members) (.object documents) := by
  obtain ⟨rows, read⟩ := listed
  exact printed_object read

end Listed

/-- A printed text is read as the document of its value. -/
theorem ofText_pretty {value : Value} {document : Document}
    (printed : Printed (.indented 0) value document) :
    Document.ofText? value.pretty = some document := by
  obtain ⟨tokens, pends, parses⟩ := printed
  have text : value.pretty.toList = value.print (.indented 0) := String.toList_ofList
  simp only [Document.ofText?, text, pends.whole, parses []]

end CarPairing.Json
