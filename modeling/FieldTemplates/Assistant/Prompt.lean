import FieldTemplates.Assistant.Settings
import FieldTemplates.Json.Encode
import FieldTemplates.Value.Display
import FieldTemplates.Web.Exchange

namespace FieldTemplates.Assistant

def instructions : String :=
  "You are an expert WordPress developer specializing in Advanced Custom Fields (ACF). " ++
  "Always respond with valid JSON code for ACF field groups, wrapped in a ```json\\n...\\n``` block. " ++
  "The JSON must be an array of field group objects, even if only one field group is generated " ++
  "(e.g., [\x7b \"key\": \"group_123\", \"title\": \"Example\", ... \x7d]). " ++
  "Ensure the JSON is complete, properly formatted, and ready for ACF import/export. " ++
  "Each field group and its fields must have **unique keys** " ++
  "(e.g., \"group_123\", \"field_123\"), generated dynamically to avoid conflicts " ++
  "(e.g., using timestamps, random strings, or incremental IDs). " ++
  "Support all ACF field types, including but not limited to: " ++
  "Basic (text, textarea, number, email, url, password), " ++
  "Content (image, file, wysiwyg, oembed, gallery), " ++
  "Choice (select, checkbox, radio, button_group, true_false), " ++
  "Relational (link, post_object, page_link, relationship, taxonomy, user), " ++
  "jQuery (google_map, date_picker, date_time_picker, time_picker, color_picker), " ++
  "Layout (group, repeater, flexible_content, clone, accordion, tab). " ++
  "For complex fields like Repeater and Flexible Content, include properly structured " ++
  "sub_fields or layouts with unique keys and all required properties. " ++
  "Ensure location rules, conditional logic, and other ACF settings are included as " ++
  "specified in the prompt. Verify that the JSON adheres to ACF's import/export standards " ++
  "and includes all necessary properties (e.g., \"key\", \"title\", \"fields\", \"location\", " ++
  "\"menu_order\", \"position\", \"style\", \"label_placement\", \"instruction_placement\", " ++
  "\"hide_on_screen\", \"active\", \"description\")."

def message (role content : String) : Value :=
  .object [("role", .text role), ("content", .text content)]

def messages (prompt : String) : List Value :=
  [message "system" instructions, message "user" prompt]

def payload (s : Settings) (prompt : String) : Value := .object [
  ("model", s.model), ("messages", .list (messages prompt)), ("max_tokens", s.maxTokens),
  ("temperature", s.temperature)]

def callFor (s : Settings) (prompt : String) : Web.Call where
  method := .post
  url := s.endpoint
  headers := some [
    ("Authorization", "Bearer " ++ s.apiKey.display), ("Content-Type", "application/json")]
  body := some (payload s prompt)
  timeout := s.timeout

end FieldTemplates.Assistant
