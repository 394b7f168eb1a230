import BxSync.Theorems.FixedTexts

/-! The texts of contacts, projects, invoices, positions and files: an INSERT of all columns of the table, an UPDATE of those
    that are not of its key, and names that are all bound. -/

namespace BxSync

open Sql (Name Write bytes)

/-! ### Columns and names -/

def contactColumns : List String :=
  ["id", "contact_type_id", "salutation_id", "country", "user_id", "owner_id", "title_id", "salutation_form",
    "postcode", "nr", "name_1", "name_2", "birthday", "address", "city", "mail", "mail_second", "phone_fixed",
    "phone_fixed_second", "phone_mobile", "fax", "url", "skype_name", "remarks", "updated_at", "profile_image",
    "language_id", "_checksum", "_last_updated", "_archived"]

def projectColumns : List String :=
  ["id", "uuid", "nr", "name", "start_date", "end_date", "comment", "pr_state_id", "pr_project_type_id",
    "contact_id", "contact_sub_id", "pr_invoice_type_id", "pr_invoice_type_amount", "pr_budget_type_id",
    "pr_budget_type_amount", "_checksum", "_last_updated"]

def invoiceColumns : List String :=
  ["id", "document_nr", "title", "contact_id", "contact_sub_id", "user_id", "project_id", "language_id",
    "bank_account_id", "currency_id", "payment_type_id", "header", "footer", "mwst_type", "mwst_is_net",
    "show_position_taxes", "is_valid_from", "is_valid_to", "contact_address", "kb_item_status_id", "reference",
    "api_reference", "viewed_by_client_at", "updated_at", "esr_id", "qr_invoice_id", "template_slug", "network_link",
    "_checksum", "_last_updated", "total_gross", "total_net", "total_taxes", "total_received_payments",
    "total_credit_vouchers", "total_remaining_payments", "total", "total_rounding_difference"]

def positionColumns : List String :=
  ["id", "amount", "account_id", "unit_id", "tax_id", "tax_value", "description", "unit_price", "discount",
    "position", "internal_position", "type", "parent_id", "_invoice_id", "_checksum", "_last_updated"]

def fileColumns : List String :=
  ["id", "uuid", "name", "size_in_bytes", "extension", "mime_type", "uploader_email", "user_id", "is_archived",
    "source_id", "source_type", "is_referenced", "created_at", "_checksum", "_last_updated", "_deleted"]

/-- The names in the places of those columns. -/
def positionNames : List String :=
  ["id", "amount", "account_id", "unit_id", "tax_id", "tax_value", "description", "unit_price", "discount",
    "position", "internal_position", "type", "parent_id", "_parent", "_checksum", "_last_updated"]

/-! ### What is bound -/

def contactBoundNames : List String :=
  ["id", "contact_type_id", "salutation_id", "user_id", "owner_id", "title_id", "salutation_form", "language_id",
    "postcode", "nr", "name_1", "name_2", "birthday", "address", "city", "mail", "mail_second", "phone_fixed_second",
    "phone_fixed", "phone_mobile", "fax", "url", "skype_name", "remarks", "updated_at", "profile_image", "_archived",
    "_checksum", "_last_updated", "country"]

def projectBoundNames : List String :=
  ["id", "uuid", "nr", "name", "start_date", "end_date", "comment", "pr_state_id", "pr_project_type_id",
    "contact_id", "contact_sub_id", "pr_invoice_type_id", "pr_invoice_type_amount", "pr_budget_type_id",
    "pr_budget_type_amount", "_checksum", "_last_updated"]

def invoiceBoundNames : List String :=
  ["id", "document_nr", "title", "contact_id", "contact_sub_id", "user_id", "project_id", "language_id",
    "bank_account_id", "currency_id", "payment_type_id", "header", "footer", "mwst_type", "mwst_is_net",
    "show_position_taxes", "is_valid_from", "is_valid_to", "contact_address", "kb_item_status_id", "reference",
    "api_reference", "viewed_by_client_at", "updated_at", "esr_id", "qr_invoice_id", "template_slug", "network_link",
    "total_gross", "total_net", "total_taxes", "total_received_payments", "total_credit_vouchers",
    "total_remaining_payments", "total", "total_rounding_difference", "_checksum", "_last_updated"]

section

variable (lib : TextLib) (xxh3 : List UInt8 → UInt64)

theorem boundFields_fst (zeros : List String) (fields : List BXJsonField) (obj : Json) :
    (boundFields lib zeros fields obj).map Prod.fst = (fields.map fun f => f.sql.getD f.key).map asciiBytes := by
  rw [boundFields, List.map_map, List.map_map]
  rfl

theorem contactBindings_fst (archived : Bool) (countries : List Country) (obj : Json) (now : UInt64) :
    (contactBindings lib xxh3 archived countries obj now).map Prod.fst = contactBoundNames.map asciiBytes := by
  rw [contactBindings, List.map_append, boundFields_fst]
  rfl

theorem projectBindings_fst (obj : Json) (now : UInt64) :
    (projectBindings lib xxh3 obj now).map Prod.fst = projectBoundNames.map asciiBytes := by
  rw [projectBindings, List.map_append, boundFields_fst]
  rfl

theorem invoiceBindings_fst (obj : Json) (now : UInt64) :
    (invoiceBindings lib xxh3 obj now).map Prod.fst = invoiceBoundNames.map asciiBytes := by
  rw [invoiceBindings, List.map_append, boundFields_fst]
  rfl

theorem positionBindings_fst (table : String) (docId : UInt64) (obj : Json) (now : UInt64) :
    (positionBindings lib xxh3 table docId obj now).map Prod.fst = positionNames.map asciiBytes := by
  rw [positionBindings, List.map_append, boundFields_fst]
  rfl

theorem fileBindings_fst (obj : Json) (now : UInt64) : (fileBindings lib xxh3 obj now).map Prod.fst = fileColumns.map asciiBytes := by
  rw [fileBindings, List.map_append, boundFields_fst]
  rfl

end

/-! ### Texts -/

set_option maxRecDepth 20000 in
theorem contact_texts : RowTexts contactQueryInsert contactQueryUpdate true (bytes "contact") (pairsOf contactColumns contactColumns)
    (contactBoundNames.map asciiBytes) := by
  apply RowTexts.of_spelled
  iterate 5 · repeat first | exact .nil | apply Spelled.cons
  decide +kernel

set_option maxRecDepth 20000 in
theorem project_texts : RowTexts projectQueryInsert projectQueryUpdate true (bytes "pr_project")
    (pairsOf projectColumns projectColumns) (projectBoundNames.map asciiBytes) := by
  apply RowTexts.of_spelled
  iterate 5 · repeat first | exact .nil | apply Spelled.cons
  decide +kernel

set_option maxRecDepth 20000 in
theorem invoice_texts : RowTexts invoiceQueryInsert invoiceQueryUpdate true (bytes "invoice") (pairsOf invoiceColumns invoiceColumns)
    (invoiceBoundNames.map asciiBytes) := by
  apply RowTexts.of_spelled
  iterate 5 · repeat first | exact .nil | apply Spelled.cons
  decide +kernel

set_option maxRecDepth 20000 in
theorem position_texts : RowTexts (positionWriteSql "invoice_position" "_invoice_id" true)
    (positionWriteSql "invoice_position" "_invoice_id" false) false (bytes "invoice_position")
    (pairsOf positionColumns positionNames) (positionNames.map asciiBytes) := by
  apply RowTexts.of_spelled
  iterate 5 · repeat first | exact .nil | apply Spelled.cons
  decide +kernel

set_option maxRecDepth 20000 in
theorem file_texts : RowTexts fileQueryInsert fileQueryUpdate false (bytes "bx_file") (pairsOf fileColumns fileColumns)
    (fileColumns.map asciiBytes) := by
  apply RowTexts.of_spelled
  iterate 5 · repeat first | exact .nil | apply Spelled.cons
  decide +kernel

theorem position_select : SelectText (positionSelectSql "invoice_position" "_invoice_id") (bytes "_checksum")
    (bytes "invoice_position") [(bytes "id", bytes "id"), (bytes "_invoice_id", bytes "_parent")] :=
  ⟨by decide, ⟨by decide, by decide, by decide, by decide⟩, by decide, by decide, by decide⟩

theorem file_select : SelectText fileSelectSql (bytes "_checksum") (bytes "bx_file") [(bytes "id", bytes "id")] :=
  ⟨by decide, ⟨by decide, by decide, by decide, by decide⟩, by decide, by decide, by decide⟩

end BxSync
