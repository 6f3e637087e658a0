import ChatEmbed.Proofs.Outcome

/-!
# Nothing is lost in the JSON form

The JSON form of an embed leaves out whatever is unset, and an object with nothing in it is left out
as well.  What it says can still be read back, since what is not there can only have been unset.

* `Embed.Facts` and `Field.Facts` record what is to be kept: everything but the name of an embed and
  the blanks around three of its texts.
* `Json.facts` reads them from any JSON value, without a look at the embed that it came from.
* `Embed.Facts.json` writes them.  Reading undoes writing (`Embed.Facts.facts_json`), and the JSON
  form of an embed is what is written of its facts (`Embed.form_eq_json`).
* `Embed.payload_lossless` is what follows for the JSON forms of embeds.
-/

set_option autoImplicit false

namespace ChatEmbed

/-! ## What an embed says -/

/-- What a field says. -/
structure Field.Facts where
  title : Text
  value : Text
  isInline : Bool
deriving DecidableEq, Repr

/-- What an embed says. -/
structure Embed.Facts where
  title : Text
  text : Text
  attributes : Attributes
  image : Text
  fields : List Field.Facts
deriving DecidableEq, Repr

def Field.facts (field : Field) : Field.Facts :=
  ⟨field.title, field.value, field.isInline⟩

/-- What an embed says; the blanks around its text and around that of the footer do not count. -/
def Embed.facts (embed : Embed) : Embed.Facts where
  title := embed.title
  text := Text.trim embed.text
  attributes :=
    { embed.attributes with footerText := Text.trim embed.attributes.footerText }
  image := embed.image
  fields := embed.fields.map Field.facts

/-! ## Reading -/

namespace Json

/-- The number that a value is, or zero. -/
def asNumber : Json → Nat
  | .number value => value.toNat
  | _ => 0

/-- The truth value that a value is, or false. -/
def asFlag : Json → Bool
  | .bool value => value
  | _ => false

/-- What a value says as a field. -/
def fieldFacts (value : Json) : Field.Facts where
  title := value.textAt "name"
  value := value.textAt "value"
  isInline := value.readAt asFlag "inline"

/-- What a value says as an embed.  What is not there is unset. -/
def facts (value : Json) : Embed.Facts where
  title := value.textAt "title"
  text := value.textAt "description"
  attributes :=
    { url := value.textAt "url"
      color := value.readAt asNumber "color"
      timestamp := value.textAt "timestamp"
      authorName := value.readAt (textAt "name") "author"
      authorIcon := value.readAt (textAt "icon_url") "author"
      authorUrl := value.readAt (textAt "url") "author"
      footerText := value.readAt (textAt "text") "footer"
      footerIcon := value.readAt (textAt "icon_url") "footer"
      thumbnail := value.readAt (textAt "url") "thumbnail" }
  image := value.readAt (textAt "url") "image"
  fields := (value.itemsAt "fields").map fieldFacts

theorem asNumber_of_isEmpty {value : Json} (h : value.isEmpty = true) : asNumber value = 0 := by
  cases value with
  | number n =>
    have hzero : n = 0 := eq_of_beq h
    rw [hzero]
    rfl
  | _ => rfl

theorem asFlag_of_isEmpty {value : Json} (h : value.isEmpty = true) : asFlag value = false := by
  cases value with
  | bool flag => exact (Bool.not_eq_true' flag).mp h
  | _ => rfl

/-- An object with nothing in it has the same texts as none at all. -/
theorem textAt_of_isEmpty {value : Json} (h : value.isEmpty = true) (key : Text) :
    value.textAt key = [] := by
  cases value with
  | object entries =>
    rw [List.isEmpty_iff.mp h]
    rfl
  | _ => rfl

end Json

/-! ## Writing -/

/-- The entries that the facts of a field come to, those included that may be left out. -/
def Field.Facts.entries (facts : Field.Facts) : Json.Entries :=
  [("name", .text facts.title), ("value", .text facts.value), ("inline", .bool facts.isInline)]

def Field.Facts.json (facts : Field.Facts) : Json :=
  .filled facts.entries

/-- The footer that the facts of an embed come to. -/
def Embed.Facts.footer (facts : Embed.Facts) : Json :=
  .filled [("text", .text facts.attributes.footerText),
    ("icon_url", .text facts.attributes.footerIcon)]

/-- The entries that the facts of an embed come to, those included that may be left out. -/
def Embed.Facts.entries (facts : Embed.Facts) : Json.Entries :=
  [("title", .text facts.title),
    ("description", .text facts.text),
    ("url", .text facts.attributes.url),
    ("timestamp", .text facts.attributes.timestamp),
    ("color", .ofNat facts.attributes.color),
    ("footer", facts.footer),
    ("fields", .list (facts.fields.map Field.Facts.json)),
    ("image", picturePayload facts.image),
    ("thumbnail", picturePayload facts.attributes.thumbnail),
    ("author", facts.attributes.authorPayload)]

def Embed.Facts.json (facts : Embed.Facts) : Json :=
  .filled facts.entries

/-! ## Reading what was written -/

/-- **Reading undoes writing**, for a field. -/
theorem Field.Facts.fieldFacts_json (facts : Field.Facts) : facts.json.fieldFacts = facts := by
  have hkeys : (facts.entries.map Prod.fst).Nodup := show Field.keys.Nodup by decide
  rw [Json.fieldFacts, json, Json.textAt_filled hkeys, Json.textAt_filled hkeys,
    Json.readAt_filled hkeys fun _ ↦ Json.asFlag_of_isEmpty]
  rfl

theorem textAt_picturePayload (url : Text) : (picturePayload url).textAt "url" = url := by
  have hkeys : ([("url".toList, Json.text url)].map Prod.fst).Nodup := List.nodup_singleton _
  exact Json.textAt_filled hkeys "url"

theorem Attributes.textAt_authorPayload (a : Attributes) :
    a.authorPayload.textAt "name" = a.authorName ∧ a.authorPayload.textAt "url" = a.authorUrl ∧
      a.authorPayload.textAt "icon_url" = a.authorIcon := by
  have hkeys : ([("name".toList, Json.text a.authorName), ("url".toList, .text a.authorUrl),
      ("icon_url".toList, .text a.authorIcon)].map Prod.fst).Nodup :=
    show ["name".toList, "url".toList, "icon_url".toList].Nodup by decide
  exact ⟨Json.textAt_filled hkeys "name", Json.textAt_filled hkeys "url",
    Json.textAt_filled hkeys "icon_url"⟩

theorem Embed.Facts.textAt_footer (facts : Embed.Facts) :
    facts.footer.textAt "text" = facts.attributes.footerText ∧
      facts.footer.textAt "icon_url" = facts.attributes.footerIcon := by
  have hkeys : ([("text".toList, Json.text facts.attributes.footerText),
      ("icon_url".toList, .text facts.attributes.footerIcon)].map Prod.fst).Nodup :=
    show ["text".toList, "icon_url".toList].Nodup by decide
  exact ⟨Json.textAt_filled hkeys "text", Json.textAt_filled hkeys "icon_url"⟩

/-- **Reading undoes writing**, for an embed. -/
theorem Embed.Facts.facts_json (facts : Embed.Facts) : facts.json.facts = facts := by
  have hkeys : (facts.entries.map Prod.fst).Nodup := show Embed.keys.Nodup by decide
  have htext (key : Text) : facts.json.textAt key = (Json.object facts.entries).textAt key :=
    Json.textAt_filled hkeys key
  have hcolor : facts.json.readAt Json.asNumber "color" = facts.attributes.color :=
    Json.readAt_filled hkeys (fun _ ↦ Json.asNumber_of_isEmpty) "color"
  have hpart (name key : Text) : facts.json.readAt (Json.textAt name) key =
      (Json.object facts.entries).readAt (Json.textAt name) key :=
    Json.readAt_filled hkeys (fun _ h ↦ Json.textAt_of_isEmpty h name) key
  have himage : facts.json.readAt (Json.textAt "url") "image" = facts.image :=
    (hpart "url" "image").trans (textAt_picturePayload facts.image)
  have hthumbnail : facts.json.readAt (Json.textAt "url") "thumbnail" =
      facts.attributes.thumbnail :=
    (hpart "url" "thumbnail").trans (textAt_picturePayload facts.attributes.thumbnail)
  have hfooter (name : Text) : facts.json.readAt (Json.textAt name) "footer" =
      facts.footer.textAt name :=
    hpart name "footer"
  have hauthor (name : Text) : facts.json.readAt (Json.textAt name) "author" =
      facts.attributes.authorPayload.textAt name :=
    hpart name "author"
  have hfields : (facts.json.itemsAt "fields").map Json.fieldFacts = facts.fields := by
    have hitems : facts.json.itemsAt "fields" = facts.fields.map Field.Facts.json :=
      Json.itemsAt_filled hkeys "fields"
    rw [hitems, List.map_map]
    exact (List.map_congr_left fun field _ ↦ field.fieldFacts_json).trans (List.map_id' _)
  obtain ⟨hname, hurl, hicon⟩ := facts.attributes.textAt_authorPayload
  obtain ⟨hfooterText, hfooterIcon⟩ := facts.textAt_footer
  rw [Json.facts, hcolor, himage, hthumbnail, hfields, hauthor, hauthor, hauthor, hname, hurl, hicon,
    hfooter, hfooter, hfooterText, hfooterIcon]
  simp only [htext]
  rfl

/-- **The JSON form of an embed is written from what it says**, and from nothing else. -/
theorem Embed.form_eq_json (embed : Embed) : embed.form = embed.facts.json := by
  rw [form, Facts.json, Facts.entries, facts, List.map_map]
  rfl

namespace Embed

theorem eq_json_of_payload {embed : Embed} {value : Json} (h : embed.payload = .ok value) :
    value = embed.facts.json :=
  (eq_form_of_payload h).trans embed.form_eq_json

/-- **Nothing is lost in the JSON form of an embed.**  What the embed says can be read from it, what
is not there being unset.  So two embeds have the same JSON form exactly if they say the same. -/
theorem payload_lossless :
    (∀ (embed : Embed) (value : Json), embed.payload = .ok value → value.facts = embed.facts) ∧
    ∀ (first second : Embed) (value other : Json), first.payload = .ok value →
      second.payload = .ok other → (value = other ↔ first.facts = second.facts) := by
  have hread (embed : Embed) (value : Json) (h : embed.payload = .ok value) :
      value.facts = embed.facts := by
    rw [eq_json_of_payload h, Facts.facts_json]
  refine ⟨hread, fun first second value other hvalue hother ↦ ?_⟩
  constructor
  · intro heq
    rw [← hread first value hvalue, ← hread second other hother, heq]
  · intro hfacts
    rw [eq_json_of_payload hvalue, eq_json_of_payload hother, hfacts]

/-- An embed with some of everything that counts, and some that does not. -/
def postcard : Embed where
  title := "T"
  text := " body ".toList
  attributes := { url := "u", authorIcon := "i", footerText := " ".toList }
  fields := [{ title := "F", text := " v & ".toList }, { title := "G", text := "\\&".toList }]
  name := some "card".toList

/-- A name and blanks make no difference, but an icon does that is the footer's and not the
author's. -/
theorem payload_lossless_postcard :
    ∃ value other,
      value = .object [("title", .text "T".toList), ("description", .text "body".toList),
        ("url", .text "u".toList),
        ("fields", .list [
          .object [("name", .text "F".toList), ("value", .text "v".toList), ("inline", .bool true)],
          .object [("name", .text "G".toList), ("value", .text "&".toList)]]),
        ("author", .object [("icon_url", .text "i".toList)])] ∧
      postcard.payload = .ok value ∧
      value.facts = postcard.facts ∧
      { postcard with text := "body\n".toList, name := none }.payload = .ok value ∧
      { postcard with text := "body\n".toList, name := none }.facts = postcard.facts ∧
      { postcard with attributes := { url := "u", footerIcon := "i" } }.payload = .ok other ∧
      other ≠ value := by
  obtain ⟨hread, hsame⟩ := payload_lossless
  refine ⟨_, _, rfl, rfl, hread postcard _ rfl, rfl, ?_, rfl, ?_⟩
  · exact (hsame _ postcard _ _ rfl rfl).mp rfl
  · exact mt (hsame { postcard with attributes := { url := "u", footerIcon := "i" } } postcard
      _ _ rfl rfl).mp (by decide)

end Embed

end ChatEmbed
