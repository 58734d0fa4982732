/-!
# The question put to the model

The instructions and the question with which a language model is asked for the
analysis of a schema text.
-/

namespace RequestAtlas.Analysis

/-- The instructions, line by line. -/
def instructionLines : List String :=
  ["You are an expert database architect and API designer. You analyze DBML (Database Markup Language)",
   "schemas and produce logically grouped API collection structures.",
   "",
   "Your job:",
   "1. Analyze all tables and their relationships (Ref lines).",
   "2. Identify which tables are CORE business entities and which are auxiliary or junction tables.",
   "3. Group related tables into logical domains (e.g. \"User Management\", \"Orders & Payments\").",
   "4. Identify the tables used for login/register (usually containing login, password, role_id or client_type_id fields).",
   "5. Mark each table as essential (true/false); essential means a developer would commonly need CRUD for it.",
   "6. For auth tables, build Register and Login request bodies from the actual field names in the schema.",
   "",
   "Rules:",
   "- Respond ONLY with valid JSON, no markdown, no explanation.",
   "- Every table must appear in exactly one domain, in auth_tables, or in skip_tables.",
   "- Use this exact JSON structure:",
   "",
   "\x7b",
   "  \"project_summary\": \"Brief description of what this project appears to be\",",
   "  \"domains\": [",
   "    \x7b",
   "      \"name\": \"Domain Name\",",
   "      \"icon\": \"emoji\",",
   "      \"description\": \"What this domain handles\",",
   "      \"tables\": [",
   "        \x7b\"name\": \"table_name\", \"essential\": true, \"purpose\": \"Brief purpose\", \"auth_type\": null\x7d",
   "      ]",
   "    \x7d",
   "  ],",
   "  \"auth_tables\": [",
   "    \x7b",
   "      \"table_name\": \"clients\",",
   "      \"auth_type\": \"client\",",
   "      \"login_fields\": [\"login\", \"password\"],",
   "      \"register_fields\": \x7b\"login\": \"\", \"password\": \"\", \"first_name\": \"\", \"email\": \"\"\x7d,",
   "      \"login_body\": \x7b\"login\": \"\", \"password\": \"\"\x7d,",
   "      \"has_roles\": true,",
   "      \"client_type_table\": \"client_type\"",
   "    \x7d",
   "  ],",
   "  \"skip_tables\": [\"empty_or_pure_junction_tables\"],",
   "  \"table_count_total\": 0,",
   "  \"table_count_essential\": 0,",
   "  \"table_count_skipped\": 0",
   "\x7d"]

/-- The instructions; the last line ends with a line feed too. -/
def instructions : String :=
  String.join (instructionLines.map (· ++ "\n"))

/-- The question about a schema text. -/
def question (text : String) : String :=
  "Analyze this DBML schema and return the JSON structure:\n\n" ++ text ++ "\n"

end RequestAtlas.Analysis
