import ChatEmbed.Text.Basic

/-!
# Attributes of a document

An attribute that holds the empty text, or the color 0, is unset.

* `Attribute` names the attributes that a command sets to a text; `Attributes` holds their values,
  the color and the time.
* `Attributes.set` overwrites one attribute and `Attributes.get` reads it.
* `Attributes.fillFrom` takes over the values of another record where this one has none; it is
  associative and the record with nothing set is its unit.
-/

set_option autoImplicit false

namespace ChatEmbed

/-- The attributes whose value is a text that a command sets. -/
inductive Attribute
  | authorName
  | authorIcon
  | authorUrl
  | url
  | thumbnail
  | footerText
  | footerIcon
deriving DecidableEq, Repr

/-- What a document says about itself besides its content. -/
structure Attributes where
  url : Text := []
  /-- The color as `0xRRGGBB`. -/
  color : Nat := 0
  /-- The time in its written form. -/
  timestamp : Text := []
  authorName : Text := []
  authorIcon : Text := []
  authorUrl : Text := []
  footerText : Text := []
  footerIcon : Text := []
  thumbnail : Text := []
deriving DecidableEq, Repr

/-- The first of two texts, or the second where the first is unset. -/
def Text.orFill (value fallback : Text) : Text :=
  if value = [] then fallback else value

namespace Attributes

instance : Inhabited Attributes := ⟨{}⟩

/-- The value of an attribute. -/
def get (a : Attributes) : Attribute → Text
  | .authorName => a.authorName
  | .authorIcon => a.authorIcon
  | .authorUrl => a.authorUrl
  | .url => a.url
  | .thumbnail => a.thumbnail
  | .footerText => a.footerText
  | .footerIcon => a.footerIcon

/-- The record with one attribute overwritten. -/
def set (a : Attributes) (key : Attribute) (value : Text) : Attributes :=
  match key with
  | .authorName => { a with authorName := value }
  | .authorIcon => { a with authorIcon := value }
  | .authorUrl => { a with authorUrl := value }
  | .url => { a with url := value }
  | .thumbnail => { a with thumbnail := value }
  | .footerText => { a with footerText := value }
  | .footerIcon => { a with footerIcon := value }

theorem get_set (a : Attributes) (k j : Attribute) (v : Text) :
    (a.set k v).get j = if j = k then v else a.get j := by
  cases k <;> cases j <;> rfl

theorem color_set (a : Attributes) (k : Attribute) (v : Text) : (a.set k v).color = a.color := by
  cases k <;> rfl

theorem timestamp_set (a : Attributes) (k : Attribute) (v : Text) :
    (a.set k v).timestamp = a.timestamp := by
  cases k <;> rfl

/-- The record with every unset attribute taken from `defaults`. -/
def fillFrom (a defaults : Attributes) : Attributes where
  url := a.url.orFill defaults.url
  color := if a.color = 0 then defaults.color else a.color
  timestamp := a.timestamp.orFill defaults.timestamp
  authorName := a.authorName.orFill defaults.authorName
  authorIcon := a.authorIcon.orFill defaults.authorIcon
  authorUrl := a.authorUrl.orFill defaults.authorUrl
  footerText := a.footerText.orFill defaults.footerText
  footerIcon := a.footerIcon.orFill defaults.footerIcon
  thumbnail := a.thumbnail.orFill defaults.thumbnail

theorem get_fillFrom (a d : Attributes) (k : Attribute) :
    (a.fillFrom d).get k = (a.get k).orFill (d.get k) := by
  cases k <;> rfl

end Attributes
end ChatEmbed
