import DesignTokens.Text

/-!
# The integration snippet

The file that a theme includes to merge the theme settings and to load the
stylesheet. It is the same for every config.
-/

namespace DesignTokens.Integration

/-- The name of the snippet among the templates. -/
def templateName : Text := text "integrate.php.tpl"

/-- The lines of the snippet that comes with the program. -/
def bundledLines : List String := [
  "<?php",
  "/**",
  " * Design token integration, generated by story-to-block.",
  " *",
  " * Include this file from your theme's functions.php:",
  " *",
  " *     require_once get_theme_file_path( 'dist/wp/integrate.php' );",
  " *",
  " * It merges the generated theme.json into the default theme.json layer, so",
  " * your theme's own theme.json still wins, and enqueues tokens.wp.css on the",
  " * front end and in the block editor.",
  " *",
  " * Do not edit: this file is overwritten on every `story-to-block generate`.",
  " */",
  "",
  "if ( ! defined( 'ABSPATH' ) ) \x7b",
  "\texit;",
  "\x7d",
  "",
  "if ( ! function_exists( 'story_to_block_theme_json_data' ) ) \x7b",
  "\t/**",
  "\t * Merge the generated theme.json settings into the default layer.",
  "\t *",
  "\t * @param WP_Theme_JSON_Data $theme_json Default theme.json data.",
  "\t * @return WP_Theme_JSON_Data",
  "\t */",
  "\tfunction story_to_block_theme_json_data( $theme_json ) \x7b",
  "\t\t$path = __DIR__ . '/theme.json';",
  "",
  "\t\tif ( ! is_readable( $path ) ) \x7b",
  "\t\t\treturn $theme_json;",
  "\t\t\x7d",
  "",
  "\t\t$data = json_decode( file_get_contents( $path ), true );",
  "",
  "\t\tif ( ! is_array( $data ) ) \x7b",
  "\t\t\treturn $theme_json;",
  "\t\t\x7d",
  "",
  "\t\treturn $theme_json->update_with( $data );",
  "\t\x7d",
  "\x7d",
  "add_filter( 'wp_theme_json_data_default', 'story_to_block_theme_json_data' );",
  "",
  "if ( ! function_exists( 'story_to_block_enqueue_tokens' ) ) \x7b",
  "\t/**",
  "\t * Enqueue the WordPress-mapped token stylesheet.",
  "\t */",
  "\tfunction story_to_block_enqueue_tokens() \x7b",
  "\t\t$path = __DIR__ . '/tokens.wp.css';",
  "",
  "\t\tif ( ! is_readable( $path ) ) \x7b",
  "\t\t\treturn;",
  "\t\t\x7d",
  "",
  "\t\t$url = get_theme_file_uri( str_replace( get_stylesheet_directory(), '', $path ) );",
  "",
  "\t\twp_enqueue_style( 'story-to-block-tokens', $url, array(), (string) filemtime( $path ) );",
  "\t\x7d",
  "\x7d",
  "add_action( 'wp_enqueue_scripts', 'story_to_block_enqueue_tokens' );",
  "add_action( 'enqueue_block_assets', 'story_to_block_enqueue_tokens' );"]

/-- The snippet that comes with the program. -/
def bundled : Text :=
  bundledLines.flatMap fun line => text line ++ text "\n"

end DesignTokens.Integration
