import RequestAtlas.Analysis.Basic
import RequestAtlas.Check.Scalar

/-!
# Checked analyses

The shape of an analysis as a document. Only names are required; whatever else
is left out takes its default. Fields that no shape knows are passed over.
-/

namespace RequestAtlas

open Check

/-- Checks a table in a domain. -/
def TableNote.check : Json → Checked TableNote :=
  object fun fields =>
    TableNote.mk <$> required "name" string fields
      <*> withDefault "essential" false bool fields
      <*> withDefault "purpose" "" string fields
      <*> withDefault "auth_type" none (nullable string) fields

/-- Checks a domain. -/
def Domain.check : Json → Checked Domain :=
  object fun fields =>
    Domain.mk <$> required "name" string fields
      <*> withDefault "icon" "📂" string fields
      <*> withDefault "description" "" string fields
      <*> withDefault "tables" [] (list TableNote.check) fields

/-- Checks a sign-in table. -/
def AuthSpec.check : Json → Checked AuthSpec :=
  object fun fields =>
    AuthSpec.mk <$> required "table_name" string fields
      <*> withDefault "auth_type" (some "user") (nullable string) fields
      <*> withDefault "login_fields" [] (list string) fields
      <*> withDefault "register_fields" [] freeObject fields
      <*> withDefault "login_body" [] freeObject fields
      <*> withDefault "has_roles" false bool fields
      <*> withDefault "client_type_table" none (nullable string) fields

/-- Checks an analysis. -/
def Analysis.check : Json → Checked Analysis :=
  object fun fields =>
    Analysis.mk <$> withDefault "project_summary" "" string fields
      <*> withDefault "domains" [] (list Domain.check) fields
      <*> withDefault "auth_tables" [] (list AuthSpec.check) fields
      <*> withDefault "skip_tables" [] (list string) fields
      <*> withDefault "table_count_total" 0 int fields
      <*> withDefault "table_count_essential" 0 int fields
      <*> withDefault "table_count_skipped" 0 int fields

end RequestAtlas
