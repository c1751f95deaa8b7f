import Storefront.Index.Taxonomy
import Storefront.SortedMap

/-!
# Index schemas

Which fields an index has. A filter on a field that the index lacks is left out of the statement,
because the engine would refuse the whole of it, so the fields are declared when a planner is set
up. A schema without text fields accepts every name as one.
-/

namespace Storefront

/-- A set of names, in their order. -/
abbrev NameSet := SortedMap String Unit

/-- The fields of an index. -/
structure Schema where
  index : String
  /-- Fields with one value for each document. -/
  attributes : NameSet
  /-- Fields with several values for each document: the terms of taxonomies. -/
  multiValued : NameSet
  /-- Fields that are searched for words. -/
  textFields : NameSet
deriving DecidableEq

namespace Schema

/-- A schema without fields. -/
def bare (index : String) : Schema :=
  ⟨index, ∅, ∅, ∅⟩

/-- The schema with one more attribute. -/
def addAttribute (schema : Schema) (name : String) : Schema :=
  { schema with attributes := schema.attributes.insert name () }

/-- The schema with one more multi-valued field. -/
def addMultiValued (schema : Schema) (name : String) : Schema :=
  { schema with multiValued := schema.multiValued.insert name () }

/-- The schema with one more text field. -/
def addTextField (schema : Schema) (name : String) : Schema :=
  { schema with textFields := schema.textFields.insert name () }

/-- The schema with the field of one more taxonomy. -/
def addTaxonomy (schema : Schema) (taxonomy : String) : Schema :=
  schema.addMultiValued (Taxonomy.field taxonomy)

/-- The attributes of every product index. -/
def productAttributes : List String :=
  ["post_type", "post_status", "post_date", "menu_order", "price", "stock_status",
   "stock_quantity", "average_rating", "total_sales", "visibility"]

/-- The text fields of every product index. -/
def productTextFields : List String :=
  ["title", "sku", "categories", "tags", "content"]

/-- **The schema of a product index** with the given attribute taxonomies. -/
def products (index : String) (taxonomies : List String) : Schema :=
  let fixed := [Taxonomy.categoryField, Taxonomy.tagField, "attribute_ids"].foldl
    addMultiValued (bare index)
  let fixed := productAttributes.foldl addAttribute fixed
  let fixed := productTextFields.foldl addTextField fixed
  taxonomies.foldl addTaxonomy fixed

/-- Whether the index has the attribute. -/
def hasAttribute (schema : Schema) (name : String) : Bool :=
  schema.attributes.contains name

/-- Whether the index has the multi-valued field. -/
def hasMultiValued (schema : Schema) (name : String) : Bool :=
  schema.multiValued.contains name

/-- Whether the index has the text field; without any declared, every name counts. -/
def hasTextField (schema : Schema) (name : String) : Bool :=
  schema.textFields.entries.isEmpty || schema.textFields.contains name

/-- The field of a taxonomy's terms, if the index has it. -/
def taxonomyField? (schema : Schema) (taxonomy : String) : Option String :=
  let field := Taxonomy.field taxonomy
  if schema.hasMultiValued field then some field else none

/-- The field that a taxonomy's terms are counted in: categories and tags have theirs by name. -/
def facetField? (schema : Schema) (taxonomy : String) : Option String :=
  if taxonomy = Taxonomy.categories then
    if schema.hasMultiValued Taxonomy.categoryField then some Taxonomy.categoryField else none
  else if taxonomy = Taxonomy.tags then
    if schema.hasMultiValued Taxonomy.tagField then some Taxonomy.tagField else none
  else schema.taxonomyField? taxonomy

end Schema

end Storefront
