import SeestarProxy.Wireguard.DnsAnswers

/-
  The names of queries, parsed exactly.

  A name and its end are returned where an encoded name and
  four more bytes follow the header, and nowhere else. The
  name is what the labels read as, joined by dots and put
  into lower case; for ASCII labels that is their text.

  Main declarations:
    * `joinLabels_eq`
    * `HasName` and `parseQueryName_iff`
    * `LowersAscii` and `asciiName`
    * `query_names_parse_exactly`
-/

------------------------------------------------------------
-- Labels Joined by Dots
------------------------------------------------------------

namespace SeestarProxy

namespace Wireguard

open Library Library.Slice Library.Dns

variable {toLowercase : String → String}
variable {data rest : Bytes} {labels : List Label}
variable {name : String} {questionEnd : Nat}

/- What a label reads as. -/
def labelText (label : Label) : String :=
  Text.fromUtf8Lossy label.bytes

theorem append_ne_empty
    (more : String)
    (hName : name ≠ "") :
    name ++ more ≠ "" := by
  intro hEmpty
  apply hName
  have hChars := congrArg String.toList hEmpty
  rw [String.toList_append] at hChars
  exact String.toList_eq_nil_iff.mp
    (List.append_eq_nil_iff.mp hChars).1

/- A name goes on with a dot and the next label. -/
theorem joinLabels_of_ne_empty
    (hName : name ≠ "") :
    joinLabels name labels =
      ".".intercalate (name :: labels.map labelText) := by
  induction labels generalizing name with
  | nil => exact String.intercalate_singleton.symm
  | cons label labels ih =>
      rw [joinLabels, pushLabel, if_neg hName,
        String.append_assoc, ih (append_ne_empty _ hName),
        List.map_cons, String.intercalate_cons_cons,
        String.intercalate_cons_append,
        String.intercalate_cons_append, String.append_assoc]
      rfl

theorem joinLabels_eq (labels : List Label) :
    joinLabels "" labels =
      ".".intercalate (labels.map labelText) := by
  cases labels with
  | nil => exact String.intercalate_nil.symm
  | cons label labels =>
      have hLabel : labelText label ≠ "" :=
        Text.fromUtf8Lossy_ne_empty label.nonempty
      exact joinLabels_of_ne_empty hLabel

------------------------------------------------------------
-- What Is Parsed
------------------------------------------------------------

/-
  Behind the header there are some labels, an empty one and
  at least four more bytes.
-/
def HasName (data : Bytes) (labels : List Label) : Prop :=
  ∃ rest, data.drop dnsHeaderLen =
      encodeName labels ++ rest ∧ 4 ≤ rest.length

/- The position behind a name and the four bytes. -/
def nameEnd (labels : List Label) : Nat :=
  dnsHeaderLen + (encodeName labels).length + 4

theorem encodeName_ne_nil (labels : List Label) :
    encodeName labels ≠ [] := by
  cases labels with
  | nil => exact List.cons_ne_nil _ _
  | cons label labels => exact List.cons_ne_nil _ _

/- A message with a name has a first question. -/
theorem HasName.firstQuestion
    (hName : HasName data labels) :
    ∃ question, FirstQuestion data question ∧
      question.labels = labels := by
  rcases hName with ⟨rest, hData, hFour⟩
  rcases exists_words hFour with
    ⟨qtype, qclass, rest', hRest⟩
  refine ⟨⟨labels, qtype, qclass⟩,
    ⟨data.take dnsHeaderLen, rest', ?_, ?_⟩, rfl⟩
  · have hLength := congrArg List.length hData
    have hSome := List.length_pos_iff.mpr
      (encodeName_ne_nil labels)
    rw [List.length_drop, List.length_append] at hLength
    rw [List.length_take]
    omega
  · simp only [Question.encode, List.append_assoc]
    rw [← hRest, ← hData, List.take_append_drop]

/- Its name is parsed, up to the end of the question. -/
theorem parseQueryName_of_hasName
    (hName : HasName data labels) :
    parseQueryName toLowercase data =
      .ok (some
        (toLowercase
            (".".intercalate (labels.map labelText)),
          nameEnd labels)) := by
  rcases hName.firstQuestion with ⟨question, hFirst, rfl⟩
  rw [parseQueryName_eq hFirst, joinLabels_eq,
    length_encode, ← Nat.add_assoc]
  rfl

/- A first question has a name. -/
theorem hasName_of_firstQuestion
    {question : Question}
    (hFirst : FirstQuestion data question) :
    HasName data question.labels := by
  rcases hFirst.drop with ⟨rest, hDrop⟩
  refine ⟨word question.qtype ++
    (word question.qclass ++ rest), ?_, ?_⟩
  · rw [hDrop]
    simp only [Question.encode, List.append_assoc]
  · simp only [List.length_append, word, List.length_cons]
    omega

/- Nothing else is parsed, and nothing panics. -/
theorem parseQueryName_iff :
    parseQueryName toLowercase data =
        .ok (some (name, questionEnd)) ↔
      ∃ labels, HasName data labels ∧
        name = toLowercase
          (".".intercalate (labels.map labelText)) ∧
        questionEnd = nameEnd labels := by
  constructor
  · intro hParse
    rcases parseQueryName_cases toLowercase data with
      hNone | ⟨question, hFirst⟩
    · rw [hNone] at hParse
      cases hParse
    · have hName := hasName_of_firstQuestion hFirst
      rw [parseQueryName_of_hasName hName] at hParse
      cases hParse
      exact ⟨question.labels, hName, rfl, rfl⟩
  · rintro ⟨labels, hName, rfl, rfl⟩
    exact parseQueryName_of_hasName hName

theorem parseQueryName_returns
    (toLowercase : String → String)
    (data : Bytes) :
    ∃ result, parseQueryName toLowercase data =
      .ok result := by
  rcases parseQueryName_cases toLowercase data with
    hNone | ⟨question, hFirst⟩
  · exact ⟨none, hNone⟩
  · exact ⟨_, parseQueryName_eq hFirst⟩

------------------------------------------------------------
-- ASCII Names
------------------------------------------------------------

/- Every byte of the labels is ASCII. -/
def AsciiLabels (labels : List Label) : Prop :=
  ∀ label ∈ labels, ∀ b ∈ label.bytes, b.toNat < 128

instance (labels : List Label) :
    Decidable (AsciiLabels labels) :=
  inferInstanceAs (Decidable (∀ label ∈ labels, _))

/- `to_lowercase` puts the letters A to Z in lower case. -/
def LowersAscii (toLowercase : String → String) : Prop :=
  ∀ text, (∀ c ∈ text.toList, c.toNat < 128) →
    toLowercase text = lowerAscii text

/- The characters of the labels, joined by dots. -/
def asciiText (label : Label) : String :=
  String.ofList
    (label.bytes.map fun b => Char.ofNat b.toNat)

def asciiName (labels : List Label) : String :=
  ".".intercalate (labels.map asciiText)

theorem map_labelText_of_ascii
    (hAscii : AsciiLabels labels) :
    labels.map labelText = labels.map asciiText :=
  List.map_congr_left fun label hMem =>
    Text.fromUtf8Lossy_of_ascii (hAscii label hMem)

/- The characters of ASCII bytes are ASCII. -/
theorem ascii_of_bytes
    {bytes : Bytes}
    (hAscii : ∀ b ∈ bytes, b.toNat < 128) :
    ∀ c ∈ bytes.map (fun b => Char.ofNat b.toNat),
      c.toNat < 128 := by
  intro c hMem
  rcases List.mem_map.mp hMem with ⟨b, hByte, rfl⟩
  have hLt := hAscii b hByte
  rw [Char.toNat_ofNat]
  split
  · exact hLt
  · omega

/- ASCII labels make an ASCII name. -/
theorem ascii_asciiName
    (hAscii : AsciiLabels labels) :
    ∀ c ∈ (asciiName labels).toList, c.toNat < 128 := by
  unfold asciiName
  induction labels with
  | nil => simp
  | cons label labels ih =>
      have hLabel := ascii_of_bytes
        (hAscii label List.mem_cons_self)
      have hRest := ih fun l hMem =>
        hAscii l (List.mem_cons_of_mem _ hMem)
      cases labels with
      | nil => simpa [asciiText] using hLabel
      | cons next labels =>
          have hMore : (next :: labels).map asciiText ≠ [] :=
            List.cons_ne_nil _ _
          rw [List.map_cons,
            String.intercalate_cons_of_ne_nil hMore]
          intro c hMem
          rw [String.toList_append, String.toList_append,
            asciiText, String.toList_ofList] at hMem
          rcases List.mem_append.mp hMem with hFront | hBack
          · rcases List.mem_append.mp hFront with hIn | hDot
            · exact hLabel c hIn
            · cases List.mem_singleton.mp hDot
              decide
          · exact hRest c hBack

/-
  Parsing returns for all bytes. It gives a name and an end
  exactly for an encoded name with four more bytes, and for
  ASCII labels their text in lower case.
-/
theorem query_names_parse_exactly
    (hLower : LowersAscii toLowercase)
    (data : Bytes) :
    (∃ result, parseQueryName toLowercase data =
        .ok result) ∧
      (∀ questionEnd,
        (∃ name, parseQueryName toLowercase data =
            .ok (some (name, questionEnd))) ↔
          ∃ labels, HasName data labels ∧
            questionEnd = nameEnd labels) ∧
      ∀ labels, HasName data labels → AsciiLabels labels →
        parseQueryName toLowercase data =
          .ok (some (lowerAscii (asciiName labels),
            nameEnd labels)) := by
  refine ⟨parseQueryName_returns toLowercase data, ?_, ?_⟩
  · intro questionEnd
    simp only [parseQueryName_iff]
    constructor
    · rintro ⟨name, labels, hName, -, hEnd⟩
      exact ⟨labels, hName, hEnd⟩
    · rintro ⟨labels, hName, hEnd⟩
      exact ⟨_, labels, hName, rfl, hEnd⟩
  · intro labels hName hAscii
    rw [parseQueryName_of_hasName hName,
      map_labelText_of_ascii hAscii]
    change Except.ok (some (toLowercase (asciiName labels),
      nameEnd labels)) = _
    rw [hLower _ (ascii_asciiName hAscii)]

/- A query that goes on behind its question. -/
def longQuery : Bytes :=
  queryHeader ++ (seestarQuestion.encode ++ [0xC0, 0x0C])

theorem query_names_parse_exactly_seestar :
    HasName longQuery seestarQuestion.labels ∧
      parseQueryName lowerAscii longQuery =
        .ok (some ("seestar.local", 31)) := by
  have hName : HasName longQuery seestarQuestion.labels :=
    hasName_of_firstQuestion
      ⟨queryHeader, [0xC0, 0x0C], rfl, rfl⟩
  have hParse :=
    (query_names_parse_exactly (fun _ _ => rfl)
      longQuery).2.2 _ hName (by decide +kernel)
  have hText :
      lowerAscii (asciiName seestarQuestion.labels) =
        "seestar.local" := by
    decide +kernel
  have hEnd : nameEnd seestarQuestion.labels = 31 := by
    decide +kernel
  rw [hText, hEnd] at hParse
  exact ⟨hName, hParse⟩

end Wireguard

end SeestarProxy
