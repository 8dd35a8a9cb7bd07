import FieldTemplates.Field.Kind
import FieldTemplates.Snippet.Catalog

namespace FieldTemplates.Snippet

namespace Renderer

-- Rows of a block, each at its level.
abbrev Rows := List (Nat × Row)

def row (pieces : Row) : Rows := [(0, pieces)]

def fixed (code : String) : Rows := row [.code code]

def deeper (rows : Rows) : Rows := rows.map fun r => (r.1 + 1, r.2)

-- An `if` around rows.
def guarded (condition : Row) (body : Rows) : Rows :=
  row (.code "if ( " :: condition ++ [.code " ) \x7b"]) ++ deeper body ++ fixed "\x7d"

-- The value in a variable, then rows for a value that is there.
def assigned (variable_ : String) (body : Rows) : Step :=
  .block (row [variable_, " = ", .value, ";"] ++ guarded [variable_] body)

-- Rows for many values and rows for one.
def either (condition : String) (many one : Rows) : Rows :=
  row ["if ( ", condition, " ) \x7b"] ++ deeper many ++ fixed "\x7d else \x7b" ++ deeper one ++
    fixed "\x7d"

def each (collection item : String) (body : Rows) : Rows :=
  row ["foreach ( ", collection, " as ", item, " ) \x7b"] ++ deeper body ++ fixed "\x7d"

-- A list around its items.
def listed (items : Rows) : Rows := fixed "echo '<ul>';" ++ items ++ fixed "echo '</ul>';"

-- The same with a class of its own, made of a word and the field's name.
def listedAs (word : String) (items : Rows) : Rows :=
  row ["echo '<ul class=\"", word, "-", .className, "\">';"] ++ items ++ fixed "echo '</ul>';"

def paragraph : Step :=
  .block (guarded [.value] (row ["echo '<p>' . esc_html( ", .value, " ) . '</p>';"]))

def text : Renderer := ⟨"render_text", some "Escaped value in a paragraph.", [paragraph]⟩

def url : Renderer where
  name := "render_url"
  doc := some "Anchor whose visible text is the URL."
  steps := [assigned "$url"
    (fixed "echo '<a href=\"' . esc_url( $url ) . '\">' . esc_html( $url ) . '</a>';")]

def password : Renderer where
  name := "render_password"
  doc := some "Comment only; the stored value is never read."
  steps := [.line 0 ["/* Password field: ", .commentName, " (not displayed for security) */"]]

def richContent (css : String) : Step :=
  .block (guarded [.value]
    (row ["echo '<div class=\"", css, "\">' . ", .value, " . '</div>';"]))

def wysiwyg : Renderer :=
  ⟨"render_wysiwyg", some "Raw editor HTML in a wrapper div.", [richContent "wysiwyg-content"]⟩

def oembed : Renderer :=
  ⟨"render_oembed", some "Raw embed HTML in a wrapper div.", [richContent "oembed-content"]⟩

-- A figure with the image and, if there is one, its caption.
def figure (size : Piece) : Rows :=
  fixed "echo '<figure>';" ++
    row ["echo wp_get_attachment_image( $image['ID'], '", size, "' );"] ++
    guarded ["$image['caption']"]
      (fixed "echo '<figcaption>' . esc_html( $image['caption'] ) . '</figcaption>';") ++
    fixed "echo '</figure>';"

def image : Renderer :=
  ⟨"render_image", some "Full size image in a figure with optional caption.",
    [assigned "$image" (figure .imageSize)]⟩

def gallery : Renderer where
  name := "render_gallery"
  doc := some "Thumbnails with optional captions in a gallery container."
  steps := [assigned "$images"
    (fixed "echo '<div class=\"gallery\">';" ++ each "$images" "$image" (figure .gallerySize) ++
      fixed "echo '</div>';")]

def file : Renderer where
  name := "render_file"
  doc := some "Download link labelled with the file title."
  steps := [assigned "$file"
    (fixed "echo '<a href=\"' . esc_url( $file['url'] ) . '\" download>' . esc_html( $file['title'] ) . '</a>';")]

def select : Renderer where
  name := "render_select"
  doc := some "List for multi-value selections, paragraph otherwise."
  steps := [assigned "$selected" (either "is_array( $selected )"
    (listed (each "$selected" "$value" (fixed "echo '<li>' . esc_html( $value ) . '</li>';")))
    (fixed "echo '<p>' . esc_html( $selected ) . '</p>';"))]

def checkbox : Renderer where
  name := "render_checkbox"
  doc := some "Checked choices as a list."
  steps := [assigned "$choices" (listedAs "checkbox"
    (each "$choices" "$choice" (fixed "echo '<li>' . esc_html( $choice ) . '</li>';")))]

def buttonGroup : Renderer where
  name := "render_button_group"
  doc := some "Selected button as an inline span."
  steps := [assigned "$button"
    (row ["echo '<span class=\"button-group-", .className, "\">' . esc_html( $button ) . '</span>';"])]

def trueFalse : Renderer where
  name := "render_true_false"
  doc := some "Enabled/Disabled text; both branches always present."
  steps := [.block (row ["if ( ", .value, " ) \x7b"] ++
    deeper (row ["echo '<p>' . esc_html__( 'Enabled', '", .textDomain, "' ) . '</p>';"]) ++
    fixed "\x7d else \x7b" ++
    deeper (row ["echo '<p>' . esc_html__( 'Disabled', '", .textDomain, "' ) . '</p>';"]) ++
    fixed "\x7d")]

def link : Renderer where
  name := "render_link"
  doc := some "Anchor from the link array, with target when set."
  steps := [assigned "$link"
    (fixed "$target = $link['target'] ? 'target=\"' . esc_attr( $link['target'] ) . '\"' : '';" ++
      fixed "echo '<a href=\"' . esc_url( $link['url'] ) . '\" ' . $target . '>' . esc_html( $link['title'] ) . '</a>';")]

def postObject : Renderer where
  name := "render_post_object"
  doc := some "Permalink and title of one or many posts."
  steps := [assigned "$post_object" (either "is_array( $post_object )"
    (listed (each "$post_object" "$p"
      (fixed "echo '<li><a href=\"' . esc_url( get_permalink( $p->ID ) ) . '\">' . esc_html( get_the_title( $p->ID ) ) . '</a></li>';")))
    (fixed "echo '<a href=\"' . esc_url( get_permalink( $post_object->ID ) ) . '\">' . esc_html( get_the_title( $post_object->ID ) ) . '</a>';"))]

def pageLink : Renderer where
  name := "render_page_link"
  doc := some "Page URLs resolved back to titles via url_to_postid."
  steps := [assigned "$page_link" (either "is_array( $page_link )"
    (listed (each "$page_link" "$link"
      (fixed "echo '<li><a href=\"' . esc_url( $link ) . '\">' . esc_html( get_the_title( url_to_postid( $link ) ) ) . '</a></li>';")))
    (fixed "echo '<a href=\"' . esc_url( $page_link ) . '\">' . esc_html( get_the_title( url_to_postid( $page_link ) ) ) . '</a>';"))]

def relationship : Renderer where
  name := "render_relationship"
  doc := some "List of related posts."
  steps := [assigned "$related_posts" (listedAs "relationship"
    (each "$related_posts" "$related"
      (fixed "echo '<li><a href=\"' . esc_url( get_permalink( $related->ID ) ) . '\">' . esc_html( get_the_title( $related->ID ) ) . '</a></li>';")))]

def taxonomy : Renderer where
  name := "render_taxonomy"
  doc := some "Term links, one or many."
  steps := [assigned "$terms" (listedAs "taxonomy" (either "is_array( $terms )"
    (each "$terms" "$term"
      (fixed "echo '<li><a href=\"' . esc_url( get_term_link( $term ) ) . '\">' . esc_html( $term->name ) . '</a></li>';"))
    (fixed "echo '<li><a href=\"' . esc_url( get_term_link( $terms ) ) . '\">' . esc_html( $terms->name ) . '</a></li>';")))]

def user : Renderer where
  name := "render_user"
  doc := some "Display names, one or many."
  steps := [assigned "$user" (either "isset( $user[0] )"
    (listed (each "$user" "$u"
      (fixed "echo '<li>' . esc_html( $u['display_name'] ) . '</li>';")))
    (fixed "echo '<p>' . esc_html( $user['display_name'] ) . '</p>';"))]

def googleMap : Renderer where
  name := "render_google_map"
  doc := some "Map container with coordinates; full map needs ACF map JS."
  steps := [assigned "$map"
    (fixed "echo '<div class=\"acf-map\" data-lat=\"' . esc_attr( $map['lat'] ) . '\" data-lng=\"' . esc_attr( $map['lng'] ) . '\">';" ++
      fixed "echo '<p>' . esc_html( $map['address'] ) . '</p>';" ++
      fixed "echo '</div>';" ++
      fixed "/* Note: Add ACF Google Map JS or a static map API for full rendering */")]

-- A point in time, in a format given as an expression.
def moment (variable_ format : String) : Step :=
  assigned variable_ (row ["echo '<p>' . esc_html( date_i18n( ", format, ", strtotime( ", variable_,
    " ) ) ) . '</p>';"])

def datePicker : Renderer :=
  ⟨"render_date_picker", some "Date in the site date format.",
    [moment "$date" "get_option( 'date_format' )"]⟩

def dateTimePicker : Renderer :=
  ⟨"render_date_time_picker", some "Date and time in the site formats.",
    [moment "$datetime" "get_option( 'date_format' ) . ' ' . get_option( 'time_format' )"]⟩

def timePicker : Renderer :=
  ⟨"render_time_picker", some "Time in the site time format.",
    [moment "$time" "get_option( 'time_format' )"]⟩

def colorPicker : Renderer where
  name := "render_color_picker"
  doc := some "Fixed size colour swatch."
  steps := [assigned "$color"
    (fixed "echo '<div style=\"background-color: ' . esc_attr( $color ) . '; width: 100px; height: 100px;\"></div>';")]

def rowsGuard : Step := .line 0 ["if ( have_rows('", .literalName, "') ) \x7b"]

def rowsLoop : Step := .line 1 ["while ( have_rows('", .literalName, "') ) : the_row();"]

def rowsEnd : List Step := [.line 1 ["endwhile;"], .line 1 ["echo '</div>';"], .line 0 ["\x7d"]]

def repeater : Renderer where
  name := "render_repeater"
  doc := some "Loop over rows, each row wrapped in a repeater-item div."
  steps := [rowsGuard, .line 1 ["echo '<div class=\"repeater-", .className, "\">';"], rowsLoop,
    .line 2 ["echo '<div class=\"repeater-item\">';"], .children 3, .line 2 ["echo '</div>';"]] ++
    rowsEnd

def flexibleContent : Renderer where
  name := "render_flexible_content"
  doc := some "Loop over rows with one branch per layout."
  steps := [rowsGuard, .line 1 ["echo '<div class=\"flexible-content-", .className, "\">';"],
    rowsLoop, .branches] ++ rowsEnd

def group : Renderer where
  name := "render_group"
  doc := some "Single-row loop over the group's sub-fields."
  steps := [rowsGuard, .line 1 ["echo '<div class=\"group-", .className, "\">';"], rowsLoop,
    .children 3] ++ rowsEnd

def clone : Renderer where
  name := "render_clone"
  doc := some "Cloned fields spliced in at the clone's own depth and context."
  steps := [.line 0 ["/* Clone field: ", .commentName, " */"], .splice]

def uiOnly : Renderer where
  name := "render_ui_only"
  doc := some "Admin UI element with no front-end output."
  steps := [.line 0 ["/* ", .commentType, " field: ", .commentName,
    " (admin UI element, no front-end output) */"]]

def unsupported : Renderer where
  name := "render_unsupported"
  doc := some "Best-effort escaped echo for types without a dedicated renderer."
  steps := [.line 0 ["/* Unsupported field type: ", .commentType, " */"], paragraph]

end Renderer

-- Kinds with a renderer of their own, with the kinds that share it.
def standardRenderers : List (Kind × Renderer × List Kind) := [
  (.text, .text, [.textarea, .number, .email]),
  (.url, .url, []),
  (.password, .password, []),
  (.image, .image, []),
  (.file, .file, []),
  (.wysiwyg, .wysiwyg, []),
  (.oembed, .oembed, []),
  (.gallery, .gallery, []),
  (.select, .select, [.radio]),
  (.checkbox, .checkbox, []),
  (.buttonGroup, .buttonGroup, []),
  (.trueFalse, .trueFalse, []),
  (.link, .link, []),
  (.postObject, .postObject, []),
  (.pageLink, .pageLink, []),
  (.relationship, .relationship, []),
  (.taxonomy, .taxonomy, []),
  (.user, .user, []),
  (.googleMap, .googleMap, []),
  (.datePicker, .datePicker, []),
  (.dateTimePicker, .dateTimePicker, []),
  (.timePicker, .timePicker, []),
  (.colorPicker, .colorPicker, []),
  (.repeater, .repeater, []),
  (.flexibleContent, .flexibleContent, []),
  (.group, .group, []),
  (.clone, .clone, []),
  (.accordion, .uiOnly, [.tab])]

namespace Catalog

-- Registers one after another, up to the first that is refused.
def registerAll (c : Catalog) (replace : Bool) :
    List (Kind × Renderer × List Kind) → Catalog × Option CatalogError
  | [] => (c, none)
  | (kind, r, shared) :: rest =>
    match c.register kind.name (some r) (shared.map Kind.name) replace with
    | (c, some e) => (c, some e)
    | (c, none) => c.registerAll replace rest

-- The standard renderers and, when all are in, the fallback.
def addStandard (c : Catalog) (replace : Bool) : Catalog × Option CatalogError :=
  match c.registerAll replace standardRenderers with
  | (c, some e) => (c, some e)
  | (c, none) => (c.setFallback .unsupported, none)

def standard : Catalog := (Catalog.addStandard {} false).1

end Catalog

end FieldTemplates.Snippet
