
namespace FieldTemplates

inductive Category where
  | basic
  | content
  | choice
  | relational
  | jquery
  | layout
deriving DecidableEq, Repr

def Category.name : Category → String
  | .basic => "basic"
  | .content => "content"
  | .choice => "choice"
  | .relational => "relational"
  | .jquery => "jquery"
  | .layout => "layout"

inductive Kind where
  | text
  | textarea
  | number
  | email
  | url
  | password
  | image
  | file
  | wysiwyg
  | oembed
  | gallery
  | select
  | checkbox
  | radio
  | buttonGroup
  | trueFalse
  | link
  | postObject
  | pageLink
  | relationship
  | taxonomy
  | user
  | googleMap
  | datePicker
  | dateTimePicker
  | timePicker
  | colorPicker
  | group
  | repeater
  | flexibleContent
  | clone
  | accordion
  | tab
deriving DecidableEq, Repr

namespace Kind

-- In the order of the type picker.
def all : List Kind := [
  text, textarea, number, email, url, password,
  image, file, wysiwyg, oembed, gallery,
  select, checkbox, radio, buttonGroup, trueFalse,
  link, postObject, pageLink, relationship, taxonomy, user,
  googleMap, datePicker, dateTimePicker, timePicker, colorPicker,
  group, repeater, flexibleContent, clone, accordion, tab]

def name : Kind → String
  | text => "text"
  | textarea => "textarea"
  | number => "number"
  | email => "email"
  | url => "url"
  | password => "password"
  | image => "image"
  | file => "file"
  | wysiwyg => "wysiwyg"
  | oembed => "oembed"
  | gallery => "gallery"
  | select => "select"
  | checkbox => "checkbox"
  | radio => "radio"
  | buttonGroup => "button_group"
  | trueFalse => "true_false"
  | link => "link"
  | postObject => "post_object"
  | pageLink => "page_link"
  | relationship => "relationship"
  | taxonomy => "taxonomy"
  | user => "user"
  | googleMap => "google_map"
  | datePicker => "date_picker"
  | dateTimePicker => "date_time_picker"
  | timePicker => "time_picker"
  | colorPicker => "color_picker"
  | group => "group"
  | repeater => "repeater"
  | flexibleContent => "flexible_content"
  | clone => "clone"
  | accordion => "accordion"
  | tab => "tab"

-- Only the exact spelling names a kind.
def ofName? (s : String) : Option Kind := all.find? (·.name == s)

def category : Kind → Category
  | text | textarea | number | email | url | password => .basic
  | image | file | wysiwyg | oembed | gallery => .content
  | select | checkbox | radio | buttonGroup | trueFalse => .choice
  | link | postObject | pageLink | relationship | taxonomy | user => .relational
  | googleMap | datePicker | dateTimePicker | timePicker | colorPicker => .jquery
  | group | repeater | flexibleContent | clone | accordion | tab => .layout

-- Kinds with fields inside.
def composite : Kind → Bool
  | group | repeater | clone | flexibleContent => true
  | _ => false

end Kind

end FieldTemplates
