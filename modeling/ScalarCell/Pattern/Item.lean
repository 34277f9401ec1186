import ScalarCell.Pattern.Component

namespace ScalarCell.Pattern

/-! A pattern is a sequence of literal texts and components, in which a sequence may be
optional or one of several alternatives. -/

mutual
inductive Item where
  | literal (text : List Char)
  | component (component : Component)
  | optional (items : Items)
  | first (alternatives : Alternatives)

inductive Items where
  | nil
  | cons (head : Item) (tail : Items)

inductive Alternatives where
  | nil
  | cons (head : Items) (tail : Alternatives)
end

deriving instance DecidableEq for Item
deriving instance DecidableEq for Items
deriving instance DecidableEq for Alternatives
deriving instance Repr for Item
deriving instance Repr for Items
deriving instance Repr for Alternatives

instance : Inhabited Items := ⟨.nil⟩

/-! ## Relaxed hours

For reading, an hour that is padded with zeros may also have one digit. -/

def Component.relaxHour : Component → Component
  | .hour .zero dial => .hour .unpadded dial
  | component => component

mutual
def Item.relaxHours : Item → Item
  | .literal text => .literal text
  | .component part => .component part.relaxHour
  | .optional inner => .optional inner.relaxHours
  | .first choices => .first choices.relaxHours

def Items.relaxHours : Items → Items
  | .nil => .nil
  | .cons head tail => .cons head.relaxHours tail.relaxHours

def Alternatives.relaxHours : Alternatives → Alternatives
  | .nil => .nil
  | .cons head tail => .cons head.relaxHours tail.relaxHours
end

end ScalarCell.Pattern
