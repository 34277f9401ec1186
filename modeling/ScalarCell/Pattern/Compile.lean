import ScalarCell.Pattern.Item
import ScalarCell.Pattern.Token
import ScalarCell.Text.Utf8

namespace ScalarCell.Pattern

/-! From the written form of a pattern to its items. The brackets of an item are matched
before its names and modifiers are looked at, and items are taken in order. -/

inductive CompileError where
  | unclosedBracket (position : Nat)
  | missingName (position : Nat)
  | unknownName (name : String) (position : Nat)
  | invalidModifier (text : String) (position : Nat)
  | missingModifier (key : String) (position : Nat)
  | expectedBlank (keyword : String) (position : Nat)
  | expectedBracket (position : Nat)
deriving DecidableEq, Repr

def CompileError.message : CompileError → String
  | .unclosedBracket position => s!"unclosed opening bracket at byte index {position}"
  | .missingName position => s!"missing component name at byte index {position}"
  | .unknownName name position =>
      s!"invalid component name `{name}` at byte index {position}"
  | .invalidModifier text position =>
      s!"invalid modifier `{text}` at byte index {position}"
  | .missingModifier key position =>
      s!"missing required modifier `{key}` for component at byte index {position}"
  | .expectedBlank keyword position =>
      s!"expected whitespace after `{keyword}` at byte index {position}"
  | .expectedBracket position => s!"expected opening bracket at byte index {position}"

/-! ## Components -/

structure Modifier where
  key : String
  keyPosition : Nat
  value : String
  valuePosition : Nat
deriving DecidableEq, Repr

def lowercase (text : String) : String :=
  String.ofList (text.toList.map Char.toLower)

def Component.modifyAll (component : Component) :
    List Modifier → Except CompileError Component
  | [] => .ok component
  | modifier :: rest =>
      match component.modify (lowercase modifier.key) (lowercase modifier.value) with
      | .changed modified => modified.modifyAll rest
      | .unknownKey => .error (.invalidModifier modifier.key modifier.keyPosition)
      | .invalidValue => .error (.invalidModifier modifier.value modifier.valuePosition)

def Component.ofWritten (name : String) (position : Nat) (modifiers : List Modifier) :
    Except CompileError Component :=
  match Component.ofName? (lowercase name) with
  | none => .error (.unknownName name position)
  | some component =>
      match component.modifyAll modifiers with
      | .ok (.ignore 0) => .error (.missingModifier "count" position)
      | outcome => outcome

/-! ## Brackets -/

structure Stuck where
  error : CompileError
  rest : List Token
deriving Repr

abbrev Matched (α : Type) : Type :=
  Except CompileError α × List Token

def dropBlank : List Token → List Token
  | .blank _ _ _ :: rest => rest
  | tokens => tokens

def closeBracket (opened : Nat) : List Token → Except Stuck (List Token)
  | .closing _ :: rest => .ok rest
  | tokens => .error ⟨.unclosedBracket opened, tokens⟩

def Modifier.ofWord (text : List Char) (start last : Nat) :
    Except CompileError Modifier :=
  let key := text.takeWhile (· ≠ ':')
  match text.dropWhile (· ≠ ':') with
  | [] => .error (.invalidModifier (String.ofList text) start)
  | _ :: value =>
      if key.isEmpty then .error (.invalidModifier "" start)
      else if value.isEmpty then .error (.invalidModifier "" last)
      else
        let valuePosition := start + Utf8.size key + 1
        .ok ⟨String.ofList key, start, String.ofList value, valuePosition⟩

def matchModifiers : List Token → Except Stuck (List Modifier × List Token)
  | .blank _ _ _ :: .opening position :: rest =>
      .error ⟨.invalidModifier "[" position, rest⟩
  | .blank _ _ _ :: .word text start last :: rest =>
      match Modifier.ofWord text start last with
      | .error error => .error ⟨error, rest⟩
      | .ok modifier =>
          match matchModifiers rest with
          | .error stuck => .error stuck
          | .ok (modifiers, remaining) => .ok (modifier :: modifiers, remaining)
  | .blank _ _ _ :: rest => .ok ([], rest)
  | tokens => .ok ([], tokens)

def matchComponent (opened : Nat) (name : String) (position : Nat) (tokens : List Token) :
    Except Stuck (Matched Item) := do
  let (modifiers, tokens) ← matchModifiers tokens
  let tokens ← closeBracket opened tokens
  return ((Component.ofWritten name position modifiers).map .component, tokens)

mutual
/-- What follows an opening bracket: a component, or one of the two keywords that
hold nested brackets. -/
def matchBracket : (fuel : Nat) → (opened : Nat) → List Token →
    Except Stuck (Matched Item)
  | 0, opened, tokens => .error ⟨.unclosedBracket opened, tokens⟩
  | fuel + 1, opened, tokens =>
      match tokens with
      | .blank _ start _ :: rest => matchName fuel opened start rest
      | tokens => matchName fuel opened opened tokens

def matchName : (fuel : Nat) → (opened missing : Nat) → List Token →
    Except Stuck (Matched Item)
  | 0, opened, _, tokens => .error ⟨.unclosedBracket opened, tokens⟩
  | fuel + 1, opened, missing, tokens =>
      match tokens with
      | .word text start last :: rest =>
          let name := String.ofList text
          if name = "optional" then
            match rest with
            | .blank _ _ blankLast :: rest => do
                let (items, rest) ← matchNested fuel blankLast rest
                let rest ← closeBracket opened rest
                return (items.map .optional, rest)
            | rest => .error ⟨.expectedBlank name last, rest⟩
          else if name = "first" then
            match rest with
            | .blank _ _ blankLast :: rest => do
                let (alternatives, rest) := matchAlternatives fuel blankLast rest
                let rest ← closeBracket opened rest
                return (alternatives.map .first, rest)
            | rest => .error ⟨.expectedBlank name last, rest⟩
          else
            matchComponent opened name start rest
      | tokens => .error ⟨.missingName missing, tokens⟩

def matchNested : (fuel : Nat) → (before : Nat) → List Token →
    Except Stuck (Matched Items)
  | 0, before, tokens => .error ⟨.expectedBracket before, tokens⟩
  | fuel + 1, before, tokens =>
      match tokens with
      | .opening opened :: rest => do
          let (items, rest) ← matchItems fuel rest
          let rest ← closeBracket opened rest
          return (items, dropBlank rest)
      | tokens => .error ⟨.expectedBracket before, tokens⟩

def matchAlternatives : (fuel : Nat) → (before : Nat) → List Token →
    Matched Alternatives
  | 0, _, tokens => (.ok .nil, tokens)
  | fuel + 1, before, tokens =>
      match matchNested fuel before tokens with
      | .error stuck => (.ok .nil, stuck.rest)
      | .ok (head, rest) =>
          let (tail, rest) := matchAlternatives fuel before rest
          (do return .cons (← head) (← tail), rest)

def matchItems : (fuel : Nat) → List Token → Except Stuck (Matched Items)
  | 0, tokens => .ok (.ok .nil, tokens)
  | fuel + 1, tokens =>
      match tokens with
      | [] => .ok (.ok .nil, [])
      | .closing position :: rest => .ok (.ok .nil, .closing position :: rest)
      | token :: rest => do
          let (head, rest) ← matchItem fuel token rest
          let (tail, rest) ← matchItems fuel rest
          return (do return .cons (← head) (← tail), rest)

def matchItem : (fuel : Nat) → Token → List Token → Except Stuck (Matched Item)
  | 0, _, tokens => .ok (.ok (.literal []), tokens)
  | fuel + 1, token, tokens =>
      match token with
      | .literal text => .ok (.ok (.literal text), tokens)
      | .blank text _ _ => .ok (.ok (.literal text), tokens)
      | .word text _ _ => .ok (.ok (.literal text), tokens)
      | .closing _ => .ok (.ok (.literal [']']), tokens)
      | .opening position =>
          match tokens with
          | .opening _ :: rest => .ok (.ok (.literal ['[']), rest)
          | tokens => matchBracket fuel position tokens
end

def itemsOf : (fuel : Nat) → List Token → Except CompileError Items
  | 0, _ => .ok .nil
  | _ + 1, [] => .ok .nil
  | fuel + 1, token :: rest =>
      match matchItem fuel token rest with
      | .error stuck => .error stuck.error
      | .ok (.error error, _) => .error error
      | .ok (.ok head, rest) => (itemsOf fuel rest).map (.cons head)

/-- Compiles the written form of a pattern. Matching one piece takes at most six calls. -/
def compile (pattern : String) : Except CompileError Items :=
  let tokens := tokens pattern.toList
  itemsOf (6 * tokens.length + 6) tokens

end ScalarCell.Pattern
