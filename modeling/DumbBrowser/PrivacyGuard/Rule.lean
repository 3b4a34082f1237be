import Mathlib.Data.List.Basic

/-!
# The purification rules

`URLPurifyRule` and the two default rule tables, pattern for pattern.
-/

namespace DumbBrowser

structure URLPurifyRule where
  name : String
  urlPattern : String
  queryPatterns : List String
  urlExceptions : Option (List String)
deriving DecidableEq, Repr

def getDefaultGlobalRules : URLPurifyRule where
  name := "Global"
  urlPattern := ".*"
  queryPatterns :=
    ["utm(?:_[a-z_]*)?", "ga_[a-z_]+", "yclid", "_openstat", "fb_action_(?:types|ids)",
      "fb_(?:source|ref)",
     "fbclid", "action_(?:object|type|ref)_map", "gs_l", "mkt_tok",
       "hmb_(?:campaign|medium|source)", "ref_?",
     "referrer", "gclid", "otm_[a-z_]*", "cmpid", "os_ehash", "_ga",
       "__twitter_impression", "wt_?z?mc",
     "wtrid", "[a-z]?mc", "dclid", "Echobox", "spm", "vn(?:_[a-z]*)+",
       "tracking_source", "from_spm_id"]
  urlExceptions := none

def getDefaultPerSiteRules : List URLPurifyRule :=
  [
    { name := "Google"
      urlPattern := "(https:\\/\\/|http:\\/\\/)([a-zA-Z0-9-]*\\.)?(google)(\\.[a-zA-Z]\x7b2,\x7d)(.*\\?.*)"
      queryPatterns :=
        ["ved", "bi[a-zA-Z]", "gfe_[a-zA-Z]", "ei", "source", "gs_[a-zA-Z]", "site", "oq",
          "esrc", "uact", "cd",
         "cad", "gws_[a-zA-Z]", "atyp", "vet", "zx", "_u", "je", "dcr", "ie",
           "sei", "sa", "dpr", "hl",
         "btn[a-zA-Z]", "sa", "usg", "cd", "cad", "uact"]
      urlExceptions := some
        [".*(.googlevideo.com).*", ".*(mail\\.google\\.).*(\\/mail\\/u\\/0).*",
         ".*(google\\.).*(\\/upload)?(\\/drive)\\/.*", ".*(docs\\.google\\.).*\\/.*",
         ".*(accounts\\.google\\.).*",
         ".*(google\\.).*\\/searchbyimage\\?image_url=[^\\/|\\?|&]*(\\/|&(amp;)?)?",
         ".*(hangouts\\.google\\.).*\\/webchat.*zx=[^\\/|\\?|&]*(\\/|&(amp;)?)?",
         ".*(client-channel\\.google\\.).*\\/client-channel.*zx=[^\\/|\\?|&]*(\\/|&(amp;)?)?",
         ".*(google\\.).*\\/complete\\/search\\?.*gs_[a-zA-Z]*=[^\\/|\\?|&]*(\\/|&(amp;)?)?",
         ".*(google\\.).*\\/s\\?tbm=map.*gs_[a-zA-Z]*=[^\\/|\\?|&]*(\\/|&(amp;)?)?",
         ".*(news\\.google\\.).*\\?hl=.*",
           ".*(google\\.).*\\/setprefs\\?.*hl=[^\\/|\\?|&]*(\\/|&(amp;)?)?",
         ".*(google\\.).*\\/appsactivity\\/.*", ".*(google\\.).*\\/recaptcha\\/.*"] },
    { name := "Amazon"
      urlPattern := "^https?:\\/\\/(?:[a-z0-9-]+\\.)*?amazon(?:\\.[a-z]\x7b2,\x7d)\x7b1,\x7d"
      queryPatterns :=
        ["p[fd]_rd_[a-z]*", "qid", "srs?", "__mk_[a-z]\x7b1,3\x7d_[a-z]\x7b1,3\x7d", "spIA", "ms3_c",
         "[a-z%0-9]*ie", "refRID", "colii?d", "[^a-z%0-9]adId", "qualifier", "_encoding", "smid",
         "field-lbr_brands_browse-bin", "ref_?", "th", "sprefix", "crid",
           "keywords", "cv_ct_[a-z]+",
         "linkCode", "creativeASIN", "ascsubtag", "aaxitk", "hsa_cr_id",
           "sb-ci-[a-z]+", "rnid", "dchild",
         "camp", "creative", "s"]
      urlExceptions := some
        ["^https?:\\/\\/(?:[a-z0-9-]+\\.)*?amazon(?:\\.[a-z]\x7b2,\x7d)\x7b1,\x7d\\/gp\\/.*?(?:redirector.html|cart\\/ajax-update.html|video\\/api\\/)",
         "^https?:\\/\\/(?:[a-z0-9-]+\\.)*?amazon(?:\\.[a-z]\x7b2,\x7d)\x7b1,\x7d\\/(?:hz\\/reviews-render\\/ajax\\/|message-us\\?|s\\?)"] },
    { name := "Amazon Search"
      urlPattern := "^https?:\\/\\/(?:[a-z0-9-]+\\.)*?amazon(?:\\.[a-z]\x7b2,\x7d)\x7b1,\x7d\\/s\\?"
      queryPatterns :=
        ["p[fd]_rd_[a-z]*", "qid", "srs?", "__mk_[a-z]\x7b1,3\x7d_[a-z]\x7b1,3\x7d", "spIA", "ms3_c",
         "[a-z%0-9]*ie", "refRID", "colii?d", "[^a-z%0-9]adId", "qualifier", "_encoding", "smid",
         "field-lbr_brands_browse-bin", "ref_?", "th", "sprefix", "crid",
           "keywords", "cv_ct_[a-z]+",
         "linkCode", "creativeASIN", "ascsubtag", "aaxitk", "hsa_cr_id",
           "sb-ci-[a-z]+", "rnid", "dchild",
         "camp", "creative"]
      urlExceptions := none },
    { name := "Youtube"
      urlPattern := "^https?:\\/\\/(?:[a-z0-9-]+\\.)*?youtube\\.com"
      queryPatterns :=
        ["feature", "gclid", "kw"]
      urlExceptions := none },
    { name := "Facebook"
      urlPattern := "^https?:\\/\\/(?:[a-z0-9-]+\\.)*?facebook\\.com"
      queryPatterns :=
        ["hc_[a-z_%\\[\\]0-9]*", "[a-z]*ref[a-z]*", "__tn__", "eid",
          "__xts__(?:\\[|%5B)\\d(?:\\]|%5D)",
         "comment_tracking", "dti", "app", "video_source", "ftentidentifier", "pageid",
           "padding", "ls_ref",
         "action_history"]
      urlExceptions := some
        ["^https?:\\/\\/(?:[a-z0-9-]+\\.)*?facebook\\.com\\/(plugins|ajax)\\/",
         "^https?:\\/\\/(?:[a-z0-9-]+\\.)*?facebook\\.com\\/dialog\\/(?:share|send)",
         "^https?:\\/\\/(?:[a-z0-9-]+\\.)*?facebook\\.com\\/groups\\/member_bio\\/bio_dialog\\/",
         "^https?:\\/\\/(?:[a-z0-9-]+\\.)*?facebook\\.com\\/photo\\.php\\?",
         "^https?:\\/\\/(?:[a-z0-9-]+\\.)*?facebook\\.com\\/privacy\\/specific_audience_selector_dialog\\/",
         "^https?:\\/\\/(?:[a-z0-9-]+\\.)*?facebook\\.com\\/photo\\/download\\/"] },
    { name := "Instagram"
      urlPattern := "^https?:\\/\\/(?:[a-z0-9-]+\\.)*?instagram\\.com"
      queryPatterns :=
        ["igshid"]
      urlExceptions := none },
    { name := "Steam"
      urlPattern := "^https?:\\/\\/(?:[a-z0-9-]+\\.)*?steampowered\\.com"
      queryPatterns :=
        ["snr"]
      urlExceptions := none },
    { name := "GitHub"
      urlPattern := "^https?:\\/\\/(?:[a-z0-9-]+\\.)*?github\\.com"
      queryPatterns :=
        ["email_token", "email_source"]
      urlExceptions := none },
    { name := "LinkedIn"
      urlPattern := "^https?:\\/\\/(?:[a-z0-9-]+\\.)*?linkedin\\.com"
      queryPatterns :=
        ["refId", "trk", "li[a-z]\x7b2\x7d"]
      urlExceptions := none },
    { name := "Lazada"
      urlPattern := "^https?:\\/\\/(?:[a-z0-9-]+\\.)*?lazada\\.com\\.my"
      queryPatterns :=
        ["ad_src", "did", "pa", "mp", "impsrc", "cid", "pos"]
      urlExceptions := none },
    { name := "Disq.us"
      urlPattern := "^https?:\\/\\/(?:[a-z0-9-]+\\.)*?disq\\.us"
      queryPatterns :=
        ["cuid"]
      urlExceptions := none },
    { name := "Mozilla"
      urlPattern := "^https?:\\/\\/(?:[a-z0-9-]+\\.)*?mozilla\\.org"
      queryPatterns :=
        ["src", "platform", "redirect_source"]
      urlExceptions := some
        ["^https?:\\/\\/(?:[a-z0-9-]+\\.)*?mozilla.org\\/api"] },
    { name := "New York Times"
      urlPattern := "^https?:\\/\\/(?:[a-z0-9-]+\\.)*?nytimes\\.com"
      queryPatterns :=
        ["smid"]
      urlExceptions := none },
    { name := "Times"
      urlPattern := "^https?:\\/\\/(?:[a-z0-9-]+\\.)*?twitter.com"
      queryPatterns :=
        ["(?:ref_?)?src", "s", "cn", "ref_url"]
      urlExceptions := none },
    { name := "Reddit"
      urlPattern := "^https?:\\/\\/(?:[a-z0-9-]+\\.)*?reddit.com"
      queryPatterns :=
        ["%24deep_link", "\\$deep_link", "correlation_id", "ref_campaign",
          "ref_source", "%243p", "\\$3p",
         "%24original_url", "\\$original_url", "_branch_match_id"]
      urlExceptions := none },
    { name := "Netflix"
      urlPattern := "^https?:\\/\\/(?:[a-z0-9-]+\\.)*?netflix.com"
      queryPatterns :=
        ["trackId", "tctx", "jb[a-z]*?"]
      urlExceptions := none },
    { name := "TechCrunch"
      urlPattern := "^https?:\\/\\/(?:[a-z0-9-]+\\.)*?techcrunch\\.com"
      queryPatterns :=
        ["ncid", "sr", "sr_share"]
      urlExceptions := none },
    { name := "Bing"
      urlPattern := "^https?:\\/\\/(?:[a-z0-9-]+\\.)*?bing(?:\\.[a-z]\x7b2,\x7d)\x7b1,\x7d"
      queryPatterns :=
        ["cvid", "form", "sk", "sp", "sc", "qs", "qp"]
      urlExceptions := some
        ["^https?:\\/\\/(?:[a-z0-9-]+\\.)*?bing(?:\\.[a-z]\x7b2,\x7d)\x7b1,\x7d\\/WS\\/redirect\\/"] },
    { name := "Twitch"
      urlPattern := "^https?:\\/\\/(?:[a-z0-9-]+\\.)*?twitch\\.com"
      queryPatterns :=
        ["tt_medium", "tt_content"]
      urlExceptions := none },
    { name := "IMDB"
      urlPattern := "^https?:\\/\\/(?:[a-z0-9-]+\\.)*?imdb\\.com"
      queryPatterns :=
        ["ref_", "pf_rd_[a-z]*"]
      urlExceptions := none },
    { name := "Wallmart"
      urlPattern := "^https?:\\/\\/(?:[a-z0-9-]+\\.)*?walmart\\.com"
      queryPatterns :=
        ["u1", "ath[a-z]*"]
      urlExceptions := none },
    { name := "Youku"
      urlPattern := "^https?:\\/\\/(?:[a-z0-9-]+\\.)*?youku\\.com"
      queryPatterns :=
        ["tpa"]
      urlExceptions := none },
    { name := "Taobao"
      urlPattern := "^https?:\\/\\/(?:[a-z0-9-]+\\.)*?taobao\\.com"
      queryPatterns :=
        ["price", "sourceType", "suid", "ut_sk", "un", "share_crt_v", "sp_tk", "cpp",
          "shareurl", "short_name",
         "app", "scm[_a-z-]*", "pvid", "algo_expid", "algo_pvid", "ns", "abbucket",
           "ali_refid", "ali_trackid",
         "acm", "utparam", "pos", "abtest", "trackInfo", "utkn", "scene", "mytmenu",
           "turing_bucket", "lygClk",
         "impid", "bftTag", "bftRwd", "spm", "initiative_id", "sourceId", "ssid",
           "commend", "shareUniqueId",
         "bxsign", "app_pvid", "ptl", "union_lens"]
      urlExceptions := none },
    { name := "Tmall"
      urlPattern := "^https?:\\/\\/(?:[a-z0-9-]+\\.)*?tmall\\.com"
      queryPatterns :=
        ["price", "sourceType", "suid", "ut_sk", "un", "share_crt_v", "sp_tk", "cpp",
          "shareurl", "short_name",
         "app", "scm[_a-z-]*", "pvid", "algo_expid", "algo_pvid", "ns", "abbucket",
           "ali_refid", "ali_trackid",
         "acm", "utparam", "pos", "abtest", "trackInfo", "user_number_id",
           "utkn", "scene", "mytmenu",
         "turing_bucket", "lygClk", "impid", "bftTag", "bftRwd", "activity_id", "from",
           "areaId", "user_id",
         "cat_id", "is_b", "rn"]
      urlExceptions := none },
    { name := "tb.cn"
      urlPattern := "^https?:\\/\\/(?:[a-z0-9-]+\\.)*?tb\\.cn"
      queryPatterns :=
        ["sm"]
      urlExceptions := none },
    { name := "Aliexpress"
      urlPattern := "^https?:\\/\\/(?:[a-z0-9-]+\\.)*?aliexpress(?:\\.[a-z]\x7b2,\x7d)\x7b1,\x7d"
      queryPatterns :=
        ["ws_ab_test", "btsid", "algo_expid", "algo_pvid", "gps-id", "scm[_a-z-]*",
          "cv", "af", "mall_affr",
         "sk", "dp", "terminal_id", "aff_request_id"]
      urlExceptions := none },
    { name := "Bilibili"
      urlPattern := "^https?:\\/\\/(?:[a-z0-9-]+\\.)*?bilibili\\.com"
      queryPatterns :=
        ["callback", "spm_id_from", "from_source", "from", "seid"]
      urlExceptions := some
        ["^https?:\\/\\/api\\.bilibili\\.com"] },
    { name := "GoodOldGames"
      urlPattern := "^https?:\\/\\/(?:[a-z0-9-]+\\.)*?gog\\.com"
      queryPatterns :=
        ["track_click", "link_id"]
      urlExceptions := none },
    { name := "BestBuy"
      urlPattern := "^https?:\\/\\/(?:[a-z0-9-]+\\.)*?bestbuy\\.com"
      queryPatterns :=
        ["irclickid", "irgwc", "loc", "acampID", "mpid", "intl"]
      urlExceptions := none },
    { name := "TikTok"
      urlPattern := "^https?:\\/\\/(?:[a-z0-9-]+\\.)*?tiktok\\.com"
      queryPatterns :=
        ["u_code", "preview_pb", "_d", "timestamp", "user_id", "share_app_name",
          "share_iid", "source"]
      urlExceptions := none },
    { name := "Humble Bundle"
      urlPattern := "^https?:\\/\\/(?:[a-z0-9-]+\\.)*?humblebundle\\.com"
      queryPatterns :=
        ["partner"]
      urlExceptions := none },
    { name := "Epic Games"
      urlPattern := "^https?:\\/\\/(?:[a-z0-9-]+\\.)*?epicgames\\.com"
      queryPatterns :=
        ["epic_affiliate", "epic_gameId"]
      urlExceptions := none },
    { name := "Medium"
      urlPattern := "^https?:\\/\\/(?:[a-z0-9-]+\\.)*?medium\\.com"
      queryPatterns :=
        ["source"]
      urlExceptions := none },
    { name := "Sina Weibo"
      urlPattern := "^https?:\\/\\/(?:[a-z0-9-]+\\.)*?weibo\\.(com|cn)"
      queryPatterns :=
        ["sourceType", "from", "wm"]
      urlExceptions := none },
    { name := "WeChat"
      urlPattern := "^https?:\\/\\/mp.weixin.qq\\.com"
      queryPatterns :=
        ["mpshare", "chksm"]
      urlExceptions := none }
  ]

end DumbBrowser
