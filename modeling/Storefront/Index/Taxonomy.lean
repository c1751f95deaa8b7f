import Storefront.Text.Words

/-!
# Taxonomies and their fields

A document's terms are indexed in multi-valued fields, one for each taxonomy, whose name is made
from the taxonomy's: trimmed, ASCII letters in lower case, and an underscore for whatever an
identifier cannot hold. Categories and tags have fields of fixed names. Different spellings of a
taxonomy share a field.
-/

namespace Storefront.Taxonomy

open Text

/-- The taxonomy of product categories. -/
def categories : String := "product_cat"

/-- The taxonomy of product tags. -/
def tags : String := "product_tag"

/-- The field of the product categories. -/
def categoryField : String := "category_ids"

/-- The field of the product tags. -/
def tagField : String := "tag_ids"

/-- A character of a taxonomy's name as its field has it. -/
def fieldChar (c : Char) : Char :=
  let c := c.toLower
  if c.isLower || c.isDigit || c = '_' then c else '_'

/-- The stem of the field's name. -/
def sanitize (taxonomy : String) : String :=
  String.ofList ((trimChars taxonomy.toList).map fieldChar)

/-- **The field of a taxonomy's terms.** -/
def field (taxonomy : String) : String :=
  sanitize taxonomy ++ "_ids"

/-- The taxonomy of an attribute that a parameter names without the mark of attributes. -/
def ofAttribute (name : String) : String :=
  if "pa_".toList.isPrefixOf name.toList then name else "pa_" ++ name

end Storefront.Taxonomy
