/-
PluginSweep/Check/Table.lean

The checks that a sweep knows, by name.  Every profile draws on this table and
only decides which of them run.  The table also holds the line that a summary
recommends where a check has findings.
-/
import PluginSweep.Check.Basic

namespace PluginSweep.Check

open Pattern

/-! ### Building blocks -/

/-- Any character within a line. -/
def anyChar : CharClass := .compl (.char '\n')

/-- A quote of either kind. -/
def quoteMark : CharClass := .oneOf "'\""

/-- A letter or digit of the Latin alphabet. -/
def latinAlphanumeric : CharClass :=
  .union (.union (.range 'a' 'z') (.range 'A' 'Z')) (.range '0' '9')

/-- Blanks, if any, then an opening parenthesis. -/
def opening : Pattern := seq (many .blank) (ofString "(")

/-- A hyphen, an underscore or nothing. -/
def optionalJoint : Pattern := optional (.oneOf "_-")

/-- The texts by one of which a file guards against direct access. -/
def guardStrings : List String :=
  ["defined( 'ABSPATH' )", "defined(\"ABSPATH\")", "defined('ABSPATH')", "WPINC"]

/-- The functions whose calls make a plugin unfit to be executed. -/
def highRiskFunctions : List String :=
  ["eval", "exec", "shell_exec", "passthru", "system", "popen", "proc_open", "base64_decode"]

/-- The name of the check for calls of high-risk functions. -/
def highRiskName : String := "high-risk-functions"

/-- The name of the check that looks at how the plugin is removed. -/
def uninstallName : String := "uninstall-safety"

/-- Hosts whose addresses are expected in plugin code. -/
def expectedHosts : List String :=
  ["wordpress.org", "w3.org", "schema.org", "openweathermap.org", "weatherapi.com"]

/-! ### The rules that are more than a text or a call -/

/-- Reading from the database without preparing the query, where the name is not that of a
harmless reader. -/
def wpdbGet : Rule :=
  { Rule.literal "wpdb-get" "$wpdb->get_" with
    exclude := some (anyText ["get_blog_prefix", "get_charset_collate"]) }

/-- A handler for requests of logged-in users. -/
def ajaxHandler : Rule :=
  .lines "wp_ajax"
    [ofString "add_action", many anyChar, ofString "wp_ajax_", one (.noneOf "n")]

/-- A call of a function whose name starts with `stem`. -/
def callOfFamily (name stem : String) : Rule :=
  .lines name [wordEdge, ofString stem, oneOrMore .word, opening]

/-- A secret that is assigned as a literal. -/
def secretAssignment : Rule :=
  { Rule.lines "secret-assignment"
      [alt (sequence [ofString "api", optionalJoint, ofString "key"])
        (alt (sequence [ofString "secret", optionalJoint, ofString "key"])
          (anyText ["password", "token", "auth"])),
       many .blank, one (.oneOf "=:>"), many .blank, one quoteMark, one latinAlphanumeric] with
    caseRule := .ignore }

/-- A constant whose name sounds like a secret. -/
def secretDefine : Rule :=
  { Rule.lines "secret-define"
      [ofString "define", opening, many .blank, one quoteMark, many (.compl quoteMark),
       anyText ["KEY", "SECRET", "TOKEN", "PASSWORD"]] with
    caseRule := .ignore }

/-- The address of a host that is not expected in plugin code. -/
def remoteAddress : Rule :=
  { Rule.lines "remote-url"
      [ofString "http", optional (.char 's'), ofString "://",
       oneOrMore (.compl (.union quoteMark .blank))] with
    exclude := some (anyText expectedHosts) }

/-- A translation call whose only argument is one literal. -/
def missingTextdomain : Rule :=
  .lines "missing-textdomain"
    [wordEdge, anyText ["__", "_e", "esc_html__", "esc_attr__"], opening, many .blank,
     one quoteMark, oneOrMore (.compl quoteMark), one quoteMark, many .blank, ofString ")"]

/-! ### The table -/

/-- The rule about a high-risk function; that about `exec` is only for files of the language. -/
def highRiskRule (function : String) : Rule :=
  if function == "exec" then { Rule.call function with extensions := some [".php"] }
  else Rule.call function

/-- The check for calls of high-risk functions. -/
def highRisk : Check where
  name := highRiskName
  title := "High-Risk Functions Scan"
  severity := .critical
  rules := highRiskFunctions.map highRiskRule
  description := "Scanning for: " ++ ", ".intercalate highRiskFunctions

/-- All checks. -/
def table : List Check := [
  { name := "missing-abspath-guards", title := "Missing ABSPATH/WPINC Guards",
    severity := .review,
    rules := [⟨"abspath-guard", .absence guardStrings, none, .exact, none⟩],
    description := "Files without direct access protection" },
  highRisk,
  { name := "sql-injection", title := "SQL Injection Vulnerability Scan", severity := .review,
    rules := [.literal "wpdb-query" "$wpdb->query(", wpdbGet],
    description := "Direct $wpdb queries (potential SQL injection)" },
  { name := "db-prepared", title := "Prepared Queries", severity := .info,
    rules := [.literal "wpdb-prepare" "$wpdb->prepare"],
    description := "$wpdb->prepare() usage" },
  { name := "unescaped-output", title := "XSS Vulnerability Scan", severity := .review,
    rules := [.literal "echo-variable" "echo $"],
    description := "Unescaped echo statements (potential XSS)" },
  { name := "phpcs-ignore", title := "phpcs:ignore Comments", severity := .review,
    rules := [.literal "phpcs-ignore" "phpcs:ignore"],
    description := "Bypassed coding standard checks" },
  { name := "escaping", title := "Escaping Function Usage", severity := .info,
    rules := [.literal "esc_html" "esc_html(", .literal "esc_attr" "esc_attr(",
      .literal "esc_url" "esc_url(", .literal "wp_kses" "wp_kses"] },
  { name := "user-input", title := "User Input Handling Scan", severity := .review,
    rules := [.literal "$_GET" "$_GET[", .literal "$_POST" "$_POST[",
      .literal "$_REQUEST" "$_REQUEST["],
    description := "Direct superglobal access" },
  { name := "sanitization", title := "Sanitization Function Usage", severity := .info,
    rules := [.literal "sanitize_text_field" "sanitize_text_field(",
      .literal "sanitize_email" "sanitize_email(", .literal "absint" "absint(",
      .literal "wp_unslash" "wp_unslash("] },
  { name := "ajax-handlers", title := "AJAX Handlers (authenticated)", severity := .info,
    rules := [ajaxHandler] },
  { name := "public-ajax", title := "Public AJAX Handlers", severity := .review,
    rules := [.literal "wp_ajax_nopriv" "wp_ajax_nopriv_"],
    description := "wp_ajax_nopriv_ handlers (PUBLIC - verify security!)" },
  { name := "rest-routes", title := "REST API Routes", severity := .info,
    rules := [.literal "register_rest_route" "register_rest_route"] },
  { name := "nonces", title := "Nonce Verification", severity := .info,
    rules := [.literal "wp_verify_nonce" "wp_verify_nonce",
      .literal "check_admin_referer" "check_admin_referer",
      .literal "check_ajax_referer" "check_ajax_referer"] },
  { name := "capability-checks", title := "Capability Checks", severity := .info,
    rules := [.literal "current_user_can" "current_user_can("] },
  { name := "deprecated-functions", title := "Deprecated Functions Scan", severity := .review,
    rules := [.literal "FILTER_SANITIZE_STRING" "FILTER_SANITIZE_STRING",
      callOfFamily "mysql_*" "mysql_", .call "ereg", .call "create_function"],
    description := "Functions deprecated or removed in PHP 7.2+ / 8.1+" },
  { name := "object-injection", title := "Object Injection Vulnerability Scan",
    severity := .critical,
    rules := [.call "unserialize"],
    description := "unserialize() usage (potential object injection)" },
  { name := "safe-unserialize", title := "maybe_unserialize() Usage", severity := .info,
    rules := [.call "maybe_unserialize"] },
  { name := "hardcoded-credentials", title := "Hardcoded Credentials Scan",
    severity := .critical,
    rules := [secretAssignment, secretDefine],
    description := "Potential API keys/secrets" },
  { name := "file-operations", title := "File Operations Scan", severity := .review,
    rules := [.call "file_put_contents", .call "file_get_contents", .call "fopen",
      .call "fwrite"] },
  { name := "remote-requests", title := "Remote HTTP Requests Scan", severity := .info,
    rules := [.literal "wp_remote" "wp_remote_", callOfFamily "curl" "curl_", remoteAddress] },
  { name := "i18n-missing-textdomain", title := "i18n Calls Without Textdomain",
    severity := .review,
    rules := [missingTextdomain] },
  { name := "i18n-loader", title := "Textdomain Loader", severity := .info,
    rules := [.literal "load_plugin_textdomain" "load_plugin_textdomain"] },
  { name := uninstallName, title := "Uninstall Safety Check", severity := .info,
    rules := [.literal "register_uninstall_hook" "register_uninstall_hook"] }]

/-- The check of the given name. -/
def find? (name : String) : Option Check :=
  table.find? (·.name == name)

/-! ### Recommendations -/

/-- What a summary recommends where the section of the given name has findings. -/
def recommendations : List (String × String) := [
  (highRiskName, "CRITICAL: Review high-risk function usage"),
  ("object-injection", "CRITICAL: Replace unserialize() with maybe_unserialize()"),
  ("hardcoded-credentials",
    "CRITICAL: Move hardcoded credentials to wp-config.php or options"),
  ("deprecated-functions", "MEDIUM: Update deprecated functions for PHP 8.x compatibility"),
  ("missing-abspath-guards", "MEDIUM: Add ABSPATH checks to all PHP files"),
  ("public-ajax", "REVIEW: Verify public AJAX handlers have proper security"),
  ("sql-injection", "REVIEW: Ensure all DB queries use $wpdb->prepare()"),
  ("unescaped-output", "REVIEW: Escape output with esc_html()/esc_attr()/wp_kses()"),
  ("phpcs-ignore", "REVIEW: Justify or remove phpcs:ignore comments"),
  ("user-input", "REVIEW: Sanitize superglobal input with sanitize_*() and wp_unslash()"),
  ("i18n-missing-textdomain", "REVIEW: Pass the plugin textdomain to translation functions"),
  ("php-lint", "CRITICAL: Fix PHP syntax errors before release")]

end PluginSweep.Check
