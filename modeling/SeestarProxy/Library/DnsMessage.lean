import Mathlib.Data.List.Basic

/-
  The format of DNS messages.

  A message is an identifier, flags and four sections. It is
  sent as the counts of the sections followed by what is in
  them. The structures keep the bounds that make this work:
  labels fit their length bytes, sections and data their
  counts. A question can be told from whatever follows it.

  Main declarations:
    * `Label`, `encodeName` and `Question`
    * `Owner` and `Record`
    * `Message`
    * `Question.encode_append_inj`
    * `Message.of_one_answer`
-/

------------------------------------------------------------
-- Questions
------------------------------------------------------------

namespace Library

namespace Dns

/- A label is not empty, and its length fits a byte. -/
structure Label where
  bytes : List UInt8
  nonempty : bytes ≠ []
  short : bytes.length < 256

/- A label follows its length. -/
def Label.encode (label : Label) : List UInt8 :=
  UInt8.ofNat label.bytes.length :: label.bytes

/- The labels of a name end with an empty one. -/
def encodeName : List Label → List UInt8
| [] => [0]
| label :: labels => label.encode ++ encodeName labels

/- A number in two bytes, the high one first. -/
def word (w : UInt16) : List UInt8 :=
  [UInt8.ofNat (w.toNat / 256), UInt8.ofNat w.toNat]

/- What is asked for. -/
structure Question where
  labels : List Label
  qtype : UInt16
  qclass : UInt16

def Question.encode (question : Question) : List UInt8 :=
  encodeName question.labels ++ word question.qtype ++
    word question.qclass

theorem Label.toNat_length (label : Label) :
    (UInt8.ofNat label.bytes.length).toNat =
      label.bytes.length := by
  have hShort := label.short
  rw [UInt8.toNat_ofNat']
  omega

theorem Label.length_pos (label : Label) :
    0 < label.bytes.length :=
  List.length_pos_iff.mpr label.nonempty

theorem Label.length_ne_zero (label : Label) :
    UInt8.ofNat label.bytes.length ≠ 0 := by
  intro hZero
  have hPos := label.length_pos
  have hLength := label.toNat_length
  rw [hZero] at hLength
  have hNat : (0 : UInt8).toNat = 0 := rfl
  omega

variable {labels labels' : List Label}
variable {rest rest' : List UInt8}

/- A label is read by its length. -/
theorem Label.encode_append_inj
    {label label' : Label}
    (hEq :
      label.encode ++ rest = label'.encode ++ rest') :
    label = label' ∧ rest = rest' := by
  rcases List.cons.inj hEq with ⟨hHead, hTail⟩
  have hLength :
      label.bytes.length = label'.bytes.length := by
    rw [← label.toNat_length, ← label'.toNat_length, hHead]
  rcases List.append_inj hTail hLength with ⟨hBytes, hRest⟩
  cases label
  cases label'
  cases hBytes
  exact ⟨rfl, hRest⟩

/- No name is the start of another one. -/
theorem encodeName_append_inj
    (hEq : encodeName labels ++ rest =
      encodeName labels' ++ rest') :
    labels = labels' ∧ rest = rest' := by
  induction labels generalizing labels' with
  | nil =>
      cases labels' with
      | nil => exact ⟨rfl, (List.cons.inj hEq).2⟩
      | cons label' labels' =>
          have hHead := (List.cons.inj hEq).1
          exact absurd hHead.symm label'.length_ne_zero
  | cons label labels ih =>
      cases labels' with
      | nil =>
          have hHead := (List.cons.inj hEq).1
          exact absurd hHead label.length_ne_zero
      | cons label' labels' =>
          simp only [encodeName, List.append_assoc] at hEq
          rcases Label.encode_append_inj hEq with
            ⟨rfl, hTail⟩
          rcases ih hTail with ⟨rfl, hRest⟩
          exact ⟨rfl, hRest⟩

/- A number is read back from its two bytes. -/
theorem word_inj
    {w w' : UInt16}
    (hEq : word w = word w') :
    w = w' := by
  have hWord := w.toNat_lt
  have hWord' := w'.toNat_lt
  have hHigh := congrArg UInt8.toNat (List.cons.inj hEq).1
  have hLow := congrArg UInt8.toNat
    (List.cons.inj (List.cons.inj hEq).2).1
  simp only [UInt8.toNat_ofNat'] at hHigh hLow
  apply UInt16.toNat_inj.mp
  omega

theorem word_append_inj
    {w w' : UInt16}
    (hEq : word w ++ rest = word w' ++ rest') :
    w = w' ∧ rest = rest' := by
  rcases List.append_inj hEq rfl with ⟨hWord, hRest⟩
  exact ⟨word_inj hWord, hRest⟩

/- A question can be told from what follows it. -/
theorem Question.encode_append_inj
    {question question' : Question}
    (hEq : question.encode ++ rest =
      question'.encode ++ rest') :
    question = question' ∧ rest = rest' := by
  simp only [Question.encode, List.append_assoc] at hEq
  rcases encodeName_append_inj hEq with ⟨hLabels, hEq⟩
  rcases word_append_inj hEq with ⟨hType, hEq⟩
  rcases word_append_inj hEq with ⟨hClass, hRest⟩
  cases question
  cases question'
  cases hLabels
  cases hType
  cases hClass
  exact ⟨rfl, hRest⟩

------------------------------------------------------------
-- Records
------------------------------------------------------------

/-
  Whom a record is about: a name, whose labels leave the two
  high bits of their lengths free, or a pointer to one.
-/
inductive Owner where
| pointer (offset : Fin 16384)
| name (labels : List Label)
    (short : ∀ label ∈ labels, label.bytes.length < 64)

def Owner.encode : Owner → List UInt8
| .pointer offset =>
    word (UInt16.ofNat (49152 + offset.val))
| .name labels _ => encodeName labels

/- A resource record; the length of its data fits a word. -/
structure Record where
  owner : Owner
  rtype : UInt16
  rclass : UInt16
  ttl : UInt32
  rdata : List UInt8
  short : rdata.length < 65536

def Record.encode (record : Record) : List UInt8 :=
  record.owner.encode ++ word record.rtype ++
    word record.rclass ++
    word (UInt16.ofNat (record.ttl.toNat / 65536)) ++
    word (UInt16.ofNat record.ttl.toNat) ++
    word (UInt16.ofNat record.rdata.length) ++ record.rdata

/- A pointer is not the start of a name. -/
theorem Owner.eq_pointer
    {owner : Owner}
    {offset : Fin 16384}
    (hEq : owner.encode ++ rest =
      (Owner.pointer offset).encode ++ rest') :
    owner = .pointer offset ∧ rest = rest' := by
  have hOffset := offset.isLt
  cases owner with
  | pointer offset' =>
      have hOffset' := offset'.isLt
      rcases word_append_inj hEq with ⟨hWord, hRest⟩
      have hNat := congrArg UInt16.toNat hWord
      simp only [UInt16.toNat_ofNat'] at hNat
      have hSame : offset' = offset := by
        apply Fin.ext
        omega
      exact ⟨by rw [hSame], hRest⟩
  | name labels short =>
      -- The first byte of a pointer is at least 192.
      have hPointer :
          192 ≤ (UInt8.ofNat
            ((UInt16.ofNat (49152 + offset.val)).toNat /
              256)).toNat := by
        rw [UInt8.toNat_ofNat', UInt16.toNat_ofNat']
        omega
      cases labels with
      | nil =>
          have hHead := (List.cons.inj hEq).1
          rw [← hHead] at hPointer
          exact absurd hPointer (by decide)
      | cons label labels =>
          have hHead := (List.cons.inj hEq).1
          have hShort := short label List.mem_cons_self
          rw [← hHead, label.toNat_length] at hPointer
          omega

/- The type and the class follow the owner. -/
theorem Record.type_class_of_pointer
    {record : Record}
    {offset : Fin 16384}
    {rtype rclass : UInt16}
    (hEq : record.encode ++ rest =
      (Owner.pointer offset).encode ++
        (word rtype ++ (word rclass ++ rest'))) :
    record.rtype = rtype ∧ record.rclass = rclass := by
  simp only [Record.encode, List.append_assoc] at hEq
  rcases Owner.eq_pointer hEq with ⟨_, hEq⟩
  rcases word_append_inj hEq with ⟨hType, hEq⟩
  exact ⟨hType, (word_append_inj hEq).1⟩

------------------------------------------------------------
-- Messages
------------------------------------------------------------

/- The members of a section can be counted in a word. -/
abbrev Section (α : Type) :=
  { members : List α // members.length < 65536 }

structure Message where
  id : UInt16
  flags : UInt16
  questions : Section Question
  answers : Section Record
  authorities : Section Record
  additionals : Section Record

/- The QR flag is set. -/
def Message.IsResponse (message : Message) : Prop :=
  message.flags.toNat.testBit 15 = true

def Section.count {α : Type} (members : Section α) :
    UInt16 :=
  UInt16.ofNat members.val.length

def Message.encode (message : Message) : List UInt8 :=
  word message.id ++ word message.flags ++
    word message.questions.count ++
    word message.answers.count ++
    word message.authorities.count ++
    word message.additionals.count ++
    message.questions.val.flatMap Question.encode ++
    message.answers.val.flatMap Record.encode ++
    message.authorities.val.flatMap Record.encode ++
    message.additionals.val.flatMap Record.encode

/- A section is as long as its count says. -/
theorem Section.length_eq
    {α : Type}
    {members : Section α}
    {count : UInt16}
    (hCount : members.count = count) :
    members.val.length = count.toNat := by
  have hLength := members.property
  rw [← hCount, Section.count, UInt16.toNat_ofNat']
  omega

/-
  A message whose counts are those of one question and one
  answer has one answer, and it follows the question.
-/
theorem Message.of_one_answer
    {message : Message}
    {question : Question}
    {id flags : UInt16}
    (hQuestions : message.questions.val = [question])
    (hEq : message.encode =
      word id ++ word flags ++ word 1 ++ word 1 ++ word 0 ++
        word 0 ++ rest) :
    message.id = id ∧ message.flags = flags ∧
      ∃ answer, message.answers.val = [answer] ∧
        rest = question.encode ++ answer.encode := by
  simp only [Message.encode, List.append_assoc] at hEq
  rcases word_append_inj hEq with ⟨hId, hEq⟩
  rcases word_append_inj hEq with ⟨hFlags, hEq⟩
  rcases word_append_inj hEq with ⟨_, hEq⟩
  rcases word_append_inj hEq with ⟨hAnswers, hEq⟩
  rcases word_append_inj hEq with ⟨hAuthorities, hEq⟩
  rcases word_append_inj hEq with ⟨hAdditionals, hEq⟩
  rcases List.length_eq_one_iff.mp
    (Section.length_eq hAnswers) with ⟨answer, hAnswer⟩
  have hNone := List.length_eq_zero_iff.mp
    (Section.length_eq hAuthorities)
  have hNone' := List.length_eq_zero_iff.mp
    (Section.length_eq hAdditionals)
  refine ⟨hId, hFlags, answer, hAnswer, ?_⟩
  rw [← hEq, hQuestions, hAnswer, hNone, hNone']
  simp

end Dns

end Library
